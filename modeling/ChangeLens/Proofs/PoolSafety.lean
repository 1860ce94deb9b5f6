import ChangeLens.Pool
import Mathlib.Data.List.Count
import Mathlib.Data.List.Nodup

/-!
# `ChangeLens.Proofs.PoolSafety`: no task is lost, doubled or misreported

A turn of the pool moves tasks between its three places: `State.fill` takes them from the queue,
`State.attendAll` takes them from the running workers. What a turn sees is arbitrary here: any
envelope may arrive in any turn, together with the end of its worker, with a cancellation and with
the time limit. So a run over all lists of turns is a run over all orders of events.

Three invariants carry the module, each with a lemma for a turn and one for a run:

* `State.Orderly`: the places together hold the tasks of the batch, each once, and no more workers
  run than may. It also holds in the middle of a turn, when tasks have been started
  (`Orderly.filled`).
* `State.Holds`: a task whose envelope has reached the pool either still runs, with that envelope,
  or has it as its outcome.
* `State.Spares`: a task that is cancelled while it waits goes on waiting or has the outcome of a
  cancelled task.

`run_safe` is the main result. It reads `Orderly` off as a statement about indices and results, and
the other two as statements about what is ever started and ever reported.
-/

set_option autoImplicit false

namespace ChangeLens.Pool

universe u

variable {α : Type u}

/-! ### Batches -/

/-- The tasks of a batch are numbered in the order of its keys. -/
theorem batch_indices (keys : List String) :
    (batch keys).map Job.index = List.range keys.length := by
  have hsnd : (batch keys).map Job.index = keys.zipIdx.map Prod.snd := by
    simp [batch, Function.comp_def]
  rw [hsnd, List.zipIdx_map_snd, List.range_eq_range']

/-- A place in a batch belongs to one task. -/
theorem eq_of_index_eq {keys : List String} {a b : Job} (ha : a ∈ batch keys) (hb : b ∈ batch keys)
    (h : a.index = b.index) : a = b := by
  have hnodup : ((batch keys).map Job.index).Nodup := by
    rw [batch_indices]
    exact List.nodup_range
  exact List.inj_on_of_nodup_map hnodup ha hb h

/-! ### One worker in one turn -/

namespace Worker

/-- The envelope that the pool has of a worker once it has attended to it: the one it had, the one
that arrives, or the one that is left in the pipe of a worker that has ended. -/
def held? (worker : Worker α) (seen : Sighting α) : Option (Envelope α) :=
  if seen.ended then (worker.receive seen.arrival).lastEnvelope seen.leftover
  else (worker.receive seen.arrival).envelope

/-- What arrives does not make a worker work on another task. -/
@[simp]
theorem receive_job (worker : Worker α) (arrival : Arrival α) :
    (worker.receive arrival).job = worker.job := by
  unfold receive
  split <;> rfl

/-- A worker that has an envelope takes no second one. -/
theorem receive_of_envelope {worker : Worker α} {sent : Envelope α}
    (h : worker.envelope = some sent) (arrival : Arrival α) : worker.receive arrival = worker := by
  unfold receive
  split <;> simp_all

/-- An envelope that is there stays. -/
theorem held?_of_envelope {worker : Worker α} {sent : Envelope α}
    (h : worker.envelope = some sent) (seen : Sighting α) : worker.held? seen = some sent := by
  rw [held?, receive_of_envelope h, lastEnvelope]
  split <;> simp [h]

/-- Neither does its end. -/
@[simp]
theorem finish_job (worker : Worker α) (seen : Sighting α) : (worker.finish seen).job = worker.job := by
  rw [finish]
  split <;> rfl

/-- Attending to a worker keeps its task: it has its outcome or goes on. -/
theorem attend_job (timeoutMs : Int) (seen : Sighting α) (worker : Worker α) :
    (worker.attend timeoutMs seen).elim Outcome.job Worker.job = worker.job := by
  rw [attend, settle]
  split
  · simp
  · split
    · split <;> simp
    · split
      · simp [abort]
      · split <;> simp [abort]

/-- With its envelope in the hands of the pool, a worker goes on with it or has it as its outcome,
whatever else is seen in the turn. -/
theorem attend_of_held {worker : Worker α} {seen : Sighting α} {sent : Envelope α}
    (h : worker.held? seen = some sent) (timeoutMs : Int) :
    worker.attend timeoutMs seen = .inl ⟨worker.job, sent⟩ ∨
      ∃ next : Worker α, worker.attend timeoutMs seen = .inr next ∧ next.job = worker.job ∧
        next.envelope = some sent := by
  rw [held?] at h
  rw [attend, settle]
  by_cases hended : seen.ended = true
  · rw [if_pos hended] at h ⊢
    left
    rw [finish, h, receive_job]
  · rw [if_neg hended] at h ⊢
    -- The envelope is asked for before the cancellation and the time limit are.
    rw [if_pos (by rw [h]; rfl)]
    split
    · left
      rw [finish, lastEnvelope, h, receive_job]
    · exact Or.inr ⟨_, rfl, receive_job _ _, h⟩

end Worker

/-! ### The three places -/

namespace State

/-- All tasks that a pool has, place by place. -/
def places (state : State α) : List Job :=
  state.queue ++ (state.running.map Worker.job ++ state.outcomes.map Outcome.job)

/-- How often a task stands in the three places. -/
def occurrences (state : State α) (index : Nat) : Nat :=
  state.queue.countP (·.index == index) + state.running.countP (·.job.index == index) +
    state.outcomes.countP (·.job.index == index)

/-- A task occurs as often as it stands in one of the three places. -/
theorem occurrences_eq (state : State α) (index : Nat) :
    state.occurrences index = (state.places.map Job.index).count index := by
  simp [occurrences, places, List.count, List.countP_map, Function.comp_def, Nat.add_assoc]

/-- Every task of the batch is in exactly one place, and no more workers run than may. -/
structure Orderly (limit : Nat) (jobs : List Job) (state : State α) : Prop where
  /-- The places hold the tasks of the batch. -/
  placed : state.places.Perm jobs
  /-- The number of workers is bounded. -/
  bounded : state.running.length ≤ limit

/-- At the start all tasks wait. -/
theorem initial_orderly (limit : Nat) (jobs : List Job) :
    (initial jobs : State α).Orderly limit jobs :=
  ⟨by simp [initial, places], Nat.zero_le _⟩

/-- Starting tasks moves each of them from the queue to the end of another place. -/
theorem fill_places (limit : Nat) (isCancelled : Job → Bool) (queue : List Job)
    (running : List (Worker α)) (outcomes : List (Outcome α)) :
    (fill limit isCancelled queue running outcomes).places.Perm
      (State.mk queue running outcomes).places := by
  fun_induction fill limit isCancelled queue running outcomes with
  | case1 => exact List.Perm.refl _
  | case2 job queue running outcomes _ _ ih =>
    -- A cancelled task goes from the head of the queue to the end of the outcomes.
    refine ih.trans ?_
    simp only [places, List.map_append, List.map_cons, List.map_nil, List.cons_append]
    simpa only [List.append_assoc] using
      List.perm_append_singleton job (queue ++ (running.map Worker.job ++ outcomes.map Outcome.job))
  | case3 job queue running outcomes _ _ ih =>
    -- A started task goes to the end of the workers, with the outcomes still behind it.
    refine ih.trans ?_
    simp only [places, List.map_append, List.map_cons, List.map_nil, List.cons_append,
      List.append_assoc, List.nil_append]
    rw [← List.append_assoc]
    exact List.perm_middle.trans (by rw [List.append_assoc])
  | case4 => exact List.Perm.refl _

/-- Filling up starts no more workers than the limit allows. -/
theorem fill_bounded {limit : Nat} (isCancelled : Job → Bool) (queue : List Job)
    {running : List (Worker α)} (outcomes : List (Outcome α)) (h : running.length ≤ limit) :
    (fill limit isCancelled queue running outcomes).running.length ≤ limit := by
  fun_induction fill limit isCancelled queue running outcomes with
  | case1 => exact h
  | case2 _ _ _ _ _ _ ih => exact ih h
  | case3 _ _ running _ hfree _ ih =>
    refine ih ?_
    rw [List.length_append, List.length_singleton]
    omega
  | case4 => exact h

/-- Filling up keeps the order. -/
theorem Orderly.filled {limit : Nat} {jobs : List Job} {state : State α}
    (h : state.Orderly limit jobs) (turn : Turn α) : (state.filled limit turn).Orderly limit jobs :=
  ⟨(fill_places _ _ _ _ _).trans h.placed, fill_bounded _ _ _ h.bounded⟩

/-- Sorting attended workers into those that go on and those that have an outcome keeps the tasks. -/
theorem attended_perm (attended : List (Outcome α ⊕ Worker α)) :
    ((attended.filterMap Sum.getRight?).map Worker.job ++
      (attended.filterMap Sum.getLeft?).map Outcome.job).Perm
        (attended.map (Sum.elim Outcome.job Worker.job)) := by
  induction attended with
  | nil => exact List.Perm.refl _
  | cons first rest ih =>
    cases first with
    | inl outcome => exact List.perm_middle.trans (ih.cons _)
    | inr worker => exact ih.cons _

/-- Attending to the workers moves tasks from the workers to the outcomes and loses none. -/
theorem attendAll_places (timeoutMs : Int) (sighting : Job → Sighting α) (state : State α) :
    (state.attendAll timeoutMs sighting).places.Perm state.places := by
  have hjobs : (state.running.map fun worker =>
      worker.attend timeoutMs (sighting worker.job)).map (Sum.elim Outcome.job Worker.job) =
        state.running.map Worker.job := by
    rw [List.map_map]
    exact List.map_congr_left fun worker _ => worker.attend_job timeoutMs (sighting worker.job)
  have hperm := attended_perm (state.running.map fun worker =>
    worker.attend timeoutMs (sighting worker.job))
  rw [hjobs] at hperm
  simp only [places, attendAll, List.map_append]
  refine List.Perm.append_left _ ?_
  -- New outcomes stand behind the old ones.
  calc _ ++ (state.outcomes.map Outcome.job ++ _)
      |>.Perm (_ ++ (_ ++ state.outcomes.map Outcome.job)) :=
        List.Perm.append_left _ List.perm_append_comm
    _ = (_ ++ _) ++ state.outcomes.map Outcome.job := (List.append_assoc _ _ _).symm
    _ |>.Perm (state.running.map Worker.job ++ state.outcomes.map Outcome.job) :=
        hperm.append_right _

/-- Attending to the workers starts none. -/
theorem attendAll_running_le (timeoutMs : Int) (sighting : Job → Sighting α) (state : State α) :
    (state.attendAll timeoutMs sighting).running.length ≤ state.running.length := by
  rw [attendAll]
  exact Nat.le_trans (List.length_filterMap_le _ _) (Nat.le_of_eq (List.length_map _))

/-- A turn keeps the order: it fills up and attends to the workers. -/
theorem Orderly.step {limit : Nat} {jobs : List Job} {state : State α}
    (h : state.Orderly limit jobs) (timeoutMs : Int) (turn : Turn α) :
    (state.step limit timeoutMs turn).Orderly limit jobs :=
  ⟨(attendAll_places _ _ _).trans (h.filled turn).placed,
    Nat.le_trans (attendAll_running_le _ _ _) (h.filled turn).bounded⟩

/-- So does a run of any turns. -/
theorem Orderly.run {limit : Nat} {jobs : List Job} {state : State α}
    (h : state.Orderly limit jobs) (timeoutMs : Int) (turns : List (Turn α)) :
    (state.run limit timeoutMs turns).Orderly limit jobs := by
  induction turns generalizing state with
  | nil => exact h
  | cons turn later ih => exact ih (h.step timeoutMs turn)

/-! ### Reading off -/

/-- In an orderly state every task of the batch occurs once, and no other one. -/
theorem Orderly.occurrences {limit : Nat} {keys : List String} {state : State α}
    (h : state.Orderly limit (batch keys)) (index : Nat) :
    state.occurrences index = if index < keys.length then 1 else 0 := by
  rw [occurrences_eq, (h.placed.map Job.index).count_eq, batch_indices]
  by_cases hindex : index < keys.length
  · rw [if_pos hindex]
    exact List.count_eq_one_of_mem List.nodup_range (List.mem_range.2 hindex)
  · rw [if_neg hindex]
    exact List.count_eq_zero.2 fun hmem => hindex (List.mem_range.1 hmem)

/-- No task stands in two places, nor twice in one. -/
theorem Orderly.nodup {limit : Nat} {keys : List String} {state : State α}
    (h : state.Orderly limit (batch keys)) : state.places.Nodup := by
  have hindices : (state.places.map Job.index).Nodup := by
    rw [(h.placed.map Job.index).nodup_iff, batch_indices]
    exact List.nodup_range
  exact hindices.of_map _

/-- A task that waits is not being worked on. -/
theorem Orderly.not_running_of_waits {limit : Nat} {keys : List String} {state : State α}
    (h : state.Orderly limit (batch keys)) {job : Job} (hjob : job ∈ state.queue) :
    job ∉ state.running.map Worker.job := fun hrunning =>
  (List.nodup_append.1 h.nodup).2.2 job hjob job (List.mem_append_left _ hrunning) rfl

/-- A task that is settled is not being worked on. -/
theorem Orderly.not_running_of_settled {limit : Nat} {keys : List String} {state : State α}
    (h : state.Orderly limit (batch keys)) {outcome : Outcome α} (houtcome : outcome ∈ state.outcomes) :
    outcome.job ∉ state.running.map Worker.job := fun hrunning =>
  (List.nodup_append.1 (List.nodup_append.1 h.nodup).2.1).2.2 _ hrunning _
    (List.mem_map_of_mem houtcome) rfl

/-- A task has one outcome at most. -/
theorem Orderly.outcome_unique {limit : Nat} {keys : List String} {state : State α}
    (h : state.Orderly limit (batch keys)) {a b : Outcome α} (ha : a ∈ state.outcomes)
    (hb : b ∈ state.outcomes) (hjob : a.job = b.job) : a = b :=
  List.inj_on_of_nodup_map (List.nodup_append.1 (List.nodup_append.1 h.nodup).2.1).2.1 ha hb hjob

/-- When the pool is done, the settled tasks are those of the batch. -/
theorem Orderly.settled_of_done {limit : Nat} {keys : List String} {state : State α}
    (h : state.Orderly limit (batch keys)) (hdone : state.isDone = true) :
    (state.outcomes.map Outcome.job).Perm (batch keys) := by
  rw [isDone, Bool.and_eq_true, List.isEmpty_iff, List.isEmpty_iff] at hdone
  have hplaced := h.placed
  rw [places, hdone.1, hdone.2] at hplaced
  exact hplaced

/-- In a pool that is done, the outcome of a task is found by its index. -/
theorem Orderly.find?_outcome {limit : Nat} {keys : List String} {state : State α}
    (h : state.Orderly limit (batch keys)) (hdone : state.isDone = true) {job : Job}
    (hjob : job ∈ batch keys) :
    ∃ outcome ∈ state.outcomes,
      state.outcomes.find? (fun outcome => outcome.job.index == job.index) = some outcome ∧
        outcome.job = job := by
  have hperm := h.settled_of_done hdone
  obtain ⟨own, hown, hownJob⟩ := List.mem_map.1 (hperm.mem_iff.2 hjob)
  have hsome : (state.outcomes.find? fun outcome => outcome.job.index == job.index).isSome = true :=
    List.find?_isSome.2 ⟨own, hown, by rw [hownJob]; exact beq_self_eq_true _⟩
  obtain ⟨outcome, hfind⟩ := Option.isSome_iff_exists.1 hsome
  -- The outcome that is found need not be `own` yet; only its index is known to be right.
  have hmem := List.mem_of_find?_eq_some hfind
  have hindex : outcome.job.index = job.index := by
    simpa only [beq_iff_eq] using List.find?_some hfind
  have hbatch : outcome.job ∈ batch keys := hperm.mem_iff.1 (List.mem_map_of_mem hmem)
  exact ⟨outcome, hmem, hfind, eq_of_index_eq hbatch hjob hindex⟩

/-- A pool that is done returns one outcome per task, in the order of submission. -/
theorem Orderly.results_job {limit : Nat} {keys : List String} {state : State α}
    (h : state.Orderly limit (batch keys)) (hdone : state.isDone = true) :
    (state.results (batch keys)).map Outcome.job = batch keys := by
  rw [results, List.map_filterMap]
  calc _ = (batch keys).filterMap some := by
        refine List.filterMap_congr fun job hjob => ?_
        obtain ⟨outcome, -, hfind, hown⟩ := h.find?_outcome hdone hjob
        rw [hfind, Option.map_some, hown]
    _ = batch keys := List.filterMap_some

/-- Of the outcomes, none is left behind. -/
theorem Orderly.results_perm {limit : Nat} {keys : List String} {state : State α}
    (h : state.Orderly limit (batch keys)) (hdone : state.isDone = true) :
    (state.results (batch keys)).Perm state.outcomes := by
  have hbatch : (batch keys).Nodup := by
    refine List.Nodup.of_map Job.index ?_
    rw [batch_indices]
    exact List.nodup_range
  have hperm := h.settled_of_done hdone
  have hresults : (state.results (batch keys)).Nodup :=
    List.Nodup.of_map Outcome.job (by rwa [h.results_job hdone])
  have houtcomes : state.outcomes.Nodup :=
    List.Nodup.of_map Outcome.job (hperm.nodup_iff.2 hbatch)
  -- Neither list repeats itself, so it is enough to compare their members.
  refine (List.perm_ext_iff_of_nodup hresults houtcomes).2 fun outcome => ?_
  rw [results, List.mem_filterMap]
  constructor
  · rintro ⟨job, -, hfind⟩
    exact List.mem_of_find?_eq_some hfind
  · intro hmem
    have hjob : outcome.job ∈ batch keys := hperm.mem_iff.1 (List.mem_map_of_mem hmem)
    obtain ⟨found, hfound, hfind, hown⟩ := h.find?_outcome hdone hjob
    exact ⟨outcome.job, hjob, by rw [hfind, h.outcome_unique hfound hmem hown]⟩

/-! ### Frames: what a turn leaves alone -/

/-- Filling up stops no worker. -/
theorem running_subset_fill (limit : Nat) (isCancelled : Job → Bool) (queue : List Job)
    (running : List (Worker α)) (outcomes : List (Outcome α)) :
    running ⊆ (fill limit isCancelled queue running outcomes).running := by
  fun_induction fill limit isCancelled queue running outcomes with
  | case1 => exact List.Subset.refl _
  | case2 _ _ _ _ _ _ ih => exact ih
  | case3 _ _ _ _ _ _ ih => exact List.Subset.trans (List.subset_append_left _ _) ih
  | case4 => exact List.Subset.refl _

/-- Filling up takes no outcome back. -/
theorem outcomes_subset_fill (limit : Nat) (isCancelled : Job → Bool) (queue : List Job)
    (running : List (Worker α)) (outcomes : List (Outcome α)) :
    outcomes ⊆ (fill limit isCancelled queue running outcomes).outcomes := by
  fun_induction fill limit isCancelled queue running outcomes with
  | case1 => exact List.Subset.refl _
  | case2 _ _ _ _ _ _ ih => exact List.Subset.trans (List.subset_append_left _ _) ih
  | case3 _ _ _ _ _ _ ih => exact ih
  | case4 => exact List.Subset.refl _

/-- An outcome is final. -/
theorem outcomes_subset_step (limit : Nat) (timeoutMs : Int) (turn : Turn α) (state : State α) :
    state.outcomes ⊆ (state.step limit timeoutMs turn).outcomes :=
  List.Subset.trans (outcomes_subset_fill _ _ _ _ _) (List.subset_append_left _ _)

/-! ### Envelopes that have arrived -/

/-- The pool has this envelope of this task. -/
def Holds (job : Job) (sent : Envelope α) (state : State α) : Prop :=
  (∃ worker ∈ state.running, worker.job = job ∧ worker.envelope = some sent) ∨
    ⟨job, sent⟩ ∈ state.outcomes

/-- The envelopes that the pool has of its workers in these turns. -/
def received (limit : Nat) (timeoutMs : Int) : List (Turn α) → State α → List (Job × Envelope α)
  | [], _ => []
  | turn :: later, state =>
    ((state.filled limit turn).running.filterMap fun worker =>
      (worker.held? (turn.sighting worker.job)).map fun sent => (worker.job, sent)) ++
        received limit timeoutMs later (state.step limit timeoutMs turn)

/-- What the pool has of a worker in a turn, it has after the turn. -/
theorem holds_of_held {limit : Nat} {turn : Turn α} {state : State α} {worker : Worker α}
    (hworker : worker ∈ (state.filled limit turn).running) {sent : Envelope α}
    (hheld : worker.held? (turn.sighting worker.job) = some sent) (timeoutMs : Int) :
    (state.step limit timeoutMs turn).Holds worker.job sent := by
  have hattended := List.mem_map_of_mem
    (f := fun worker : Worker α => worker.attend timeoutMs (turn.sighting worker.job)) hworker
  rcases Worker.attend_of_held hheld timeoutMs with hsettled | ⟨next, hnext, hjob, henvelope⟩
  · refine Or.inr (List.mem_append_right _ (List.mem_filterMap.2 ⟨_, hattended, ?_⟩))
    rw [hsettled]
    rfl
  · refine Or.inl ⟨next, List.mem_filterMap.2 ⟨_, hattended, ?_⟩, hjob, henvelope⟩
    rw [hnext]
    rfl

/-- An envelope that has arrived is not lost in a turn. -/
theorem Holds.step {job : Job} {sent : Envelope α} {state : State α} (h : state.Holds job sent)
    (limit : Nat) (timeoutMs : Int) (turn : Turn α) :
    (state.step limit timeoutMs turn).Holds job sent := by
  rcases h with ⟨worker, hworker, rfl, henvelope⟩ | houtcome
  · exact holds_of_held (running_subset_fill _ _ _ _ _ hworker)
      (Worker.held?_of_envelope henvelope _) timeoutMs
  · exact Or.inr (outcomes_subset_step _ _ _ _ houtcome)

/-- Nor in a run of any turns. -/
theorem Holds.run {job : Job} {sent : Envelope α} {state : State α} (h : state.Holds job sent)
    (limit : Nat) (timeoutMs : Int) (turns : List (Turn α)) :
    (state.run limit timeoutMs turns).Holds job sent := by
  induction turns generalizing state with
  | nil => exact h
  | cons turn later ih => exact ih (h.step limit timeoutMs turn)

/-- Whatever the pool has of its workers in a run, it has at its end. -/
theorem holds_of_received {limit : Nat} {timeoutMs : Int} {turns : List (Turn α)} {state : State α}
    {job : Job} {sent : Envelope α} (h : (job, sent) ∈ received limit timeoutMs turns state) :
    (state.run limit timeoutMs turns).Holds job sent := by
  induction turns generalizing state with
  | nil => cases h
  | cons turn later ih =>
    rcases List.mem_append.1 h with hnow | hlater
    · obtain ⟨worker, hworker, hheld⟩ := List.mem_filterMap.1 hnow
      obtain ⟨held, hsome, heq⟩ := Option.map_eq_some_iff.1 hheld
      cases heq
      exact (holds_of_held hworker hsome timeoutMs).run limit timeoutMs later
    · exact ih hlater

/-- An outcome is the envelope that the pool has. -/
theorem Holds.result_eq {limit : Nat} {keys : List String} {state : State α} {job : Job}
    {sent : Envelope α} (h : state.Holds job sent) (horderly : state.Orderly limit (batch keys))
    {outcome : Outcome α} (houtcome : outcome ∈ state.outcomes) (hjob : outcome.job = job) :
    outcome.result = sent := by
  subst hjob
  -- A task with an outcome does not run, so the envelope is in an outcome, and there is only one.
  rcases h with ⟨worker, hworker, hsame, -⟩ | hsettled
  · exact absurd (hsame ▸ List.mem_map_of_mem hworker) (horderly.not_running_of_settled houtcome)
  · exact congrArg Outcome.result (horderly.outcome_unique houtcome hsettled rfl)

/-! ### Tasks that are cancelled while they wait -/

/-- The task waits, or was cancelled. -/
def Spares (job : Job) (state : State α) : Prop :=
  job ∈ state.queue ∨ ⟨job, .failure cancelledMessage⟩ ∈ state.outcomes

/-- The tasks that run in these turns. A worker can be started and settled in one turn, so the
middle of each turn counts. -/
def everRunning (limit : Nat) (timeoutMs : Int) : List (Turn α) → State α → List Job
  | [], _ => []
  | turn :: later, state =>
    (state.filled limit turn).running.map Worker.job ++
      everRunning limit timeoutMs later (state.step limit timeoutMs turn)

/-- A cancelled task leaves the queue with the outcome of a cancelled task only. -/
theorem fill_spares {limit : Nat} {isCancelled : Job → Bool} {job : Job}
    (hcancelled : isCancelled job = true) (queue : List Job) (running : List (Worker α))
    (outcomes : List (Outcome α)) (hjob : job ∈ queue) :
    (fill limit isCancelled queue running outcomes).Spares job := by
  fun_induction fill limit isCancelled queue running outcomes with
  | case1 => cases hjob
  | case2 first queue running outcomes _ _ ih =>
    rcases List.mem_cons.1 hjob with rfl | hjob
    · exact Or.inr (outcomes_subset_fill _ _ _ _ _ (List.mem_append_right _ (List.mem_singleton_self _)))
    · exact ih hjob
  | case3 first queue running outcomes _ hstart ih =>
    rcases List.mem_cons.1 hjob with rfl | hjob
    · exact absurd hcancelled hstart
    · exact ih hjob
  | case4 => exact Or.inl hjob

/-- A cancelled task that has no worker gets none. -/
theorem Spares.filled {job : Job} {state : State α} (h : state.Spares job) (limit : Nat)
    {turn : Turn α} (hcancelled : turn.isCancelled job = true) :
    (state.filled limit turn).Spares job := by
  rcases h with hwaits | hsettled
  · exact fill_spares hcancelled _ _ _ hwaits
  · exact Or.inr (outcomes_subset_fill _ _ _ _ _ hsettled)

/-- Nor in a turn. -/
theorem Spares.step {job : Job} {state : State α} (h : state.Spares job) (limit : Nat)
    (timeoutMs : Int) {turn : Turn α} (hcancelled : turn.isCancelled job = true) :
    (state.step limit timeoutMs turn).Spares job := by
  rcases h.filled limit hcancelled with hwaits | hsettled
  · exact Or.inl hwaits
  · exact Or.inr (List.mem_append_left _ hsettled)

/-- Nor in a run of turns in which it is cancelled. -/
theorem Spares.run {job : Job} {state : State α} (h : state.Spares job) (limit : Nat)
    (timeoutMs : Int) {turns : List (Turn α)}
    (hcancelled : ∀ turn ∈ turns, turn.isCancelled job = true) :
    (state.run limit timeoutMs turns).Spares job := by
  induction turns generalizing state with
  | nil => exact h
  | cons turn later ih =>
    rw [List.forall_mem_cons] at hcancelled
    exact ih (h.step limit timeoutMs hcancelled.1) hcancelled.2

/-- No worker works on a spared task. -/
theorem Spares.not_running {limit : Nat} {keys : List String} {job : Job} {state : State α}
    (h : state.Spares job) (horderly : state.Orderly limit (batch keys)) :
    job ∉ state.running.map Worker.job := by
  rcases h with hwaits | hsettled
  · exact horderly.not_running_of_waits hwaits
  · exact horderly.not_running_of_settled hsettled

/-- Nor does one at any time of a run in which it is cancelled. -/
theorem Spares.not_everRunning {limit : Nat} {keys : List String} {job : Job} {state : State α}
    (h : state.Spares job) (horderly : state.Orderly limit (batch keys)) {timeoutMs : Int}
    {turns : List (Turn α)} (hcancelled : ∀ turn ∈ turns, turn.isCancelled job = true) :
    job ∉ everRunning limit timeoutMs turns state := by
  induction turns generalizing state with
  | nil => exact List.not_mem_nil
  | cons turn later ih =>
    rw [List.forall_mem_cons] at hcancelled
    intro hmem
    -- What runs is looked at in the middle of the turn, where the state is orderly as well.
    rcases List.mem_append.1 hmem with hnow | hlater
    · exact (h.filled limit hcancelled.1).not_running (horderly.filled turn) hnow
    · exact ih (h.step limit timeoutMs hcancelled.1) (horderly.step timeoutMs turn) hcancelled.2
        hlater

/-- The outcome of a spared task says that it was cancelled. -/
theorem Spares.result_eq {limit : Nat} {keys : List String} {job : Job} {state : State α}
    (h : state.Spares job) (horderly : state.Orderly limit (batch keys)) {outcome : Outcome α}
    (houtcome : outcome ∈ state.outcomes) (hjob : outcome.job = job) :
    outcome.result = .failure cancelledMessage := by
  subst hjob
  rcases h with hwaits | hsettled
  · exact absurd rfl ((List.nodup_append.1 horderly.nodup).2.2 _ hwaits _
      (List.mem_append_right _ (List.mem_map_of_mem houtcome)))
  · exact congrArg Outcome.result (horderly.outcome_unique houtcome hsettled rfl)

end State

/-! ### Every order of events -/

/-- Whatever is seen in whichever order, at the start of every turn and in its middle every task of
the batch is in exactly one of the three places and at most `limit` workers run. A pool that is done
returns each outcome, one per task, in the order of submission. A task that is cancelled while it
waits is never started from then on, because a cancellation is not taken back, and its outcome says
so. An envelope that has reached the pool is kept and decides the outcome of its task. -/
theorem run_safe (limit : Nat) (timeoutMs : Int) (keys : List String)
    (early late : List (Turn α)) :
    let start : State α := .initial (batch keys)
    let state := start.run limit timeoutMs early
    let final := state.run limit timeoutMs late
    (∀ index, state.occurrences index = if index < keys.length then 1 else 0) ∧
    (∀ turn index,
      (state.filled limit turn).occurrences index = if index < keys.length then 1 else 0) ∧
    state.running.length ≤ limit ∧
    (∀ turn, (state.filled limit turn).running.length ≤ limit) ∧
    (state.isDone = true →
      (state.results (batch keys)).map Outcome.job = batch keys ∧
      (state.results (batch keys)).Perm state.outcomes) ∧
    (∀ job ∈ state.queue, (∀ turn ∈ late, turn.isCancelled job = true) →
      job ∉ State.everRunning limit timeoutMs late state ∧
      ∀ outcome ∈ final.outcomes, outcome.job = job →
        outcome.result = .failure cancelledMessage) ∧
    (∀ job sent, (job, sent) ∈ State.received limit timeoutMs early start →
      final.Holds job sent ∧
      ∀ outcome ∈ final.outcomes, outcome.job = job → outcome.result = sent) := by
  intro start state final
  -- Everything but the last two parts follows from the order of tasks, which no turn breaks; those
  -- two are carried by invariants of their own, `Spares` and `Holds`.
  have hstate : state.Orderly limit (batch keys) :=
    (State.initial_orderly limit (batch keys)).run timeoutMs early
  have hfinal : final.Orderly limit (batch keys) := hstate.run timeoutMs late
  refine ⟨hstate.occurrences, fun turn => (hstate.filled turn).occurrences, hstate.bounded,
    fun turn => (hstate.filled turn).bounded, ?_, ?_, ?_⟩
  · intro hdone
    exact ⟨hstate.results_job hdone, hstate.results_perm hdone⟩
  · intro job hjob hcancelled
    have hspares : state.Spares job := Or.inl hjob
    exact ⟨hspares.not_everRunning hstate hcancelled, fun outcome houtcome =>
      (hspares.run limit timeoutMs hcancelled).result_eq hfinal houtcome⟩
  · intro job sent hreceived
    have hholds : final.Holds job sent :=
      (State.holds_of_received hreceived).run limit timeoutMs late
    exact ⟨hholds, fun outcome houtcome => hholds.result_eq hfinal houtcome⟩

/-- A turn in which the second task is cancelled and every worker sends its envelope while it is
cancelled and overdue as well. -/
def crowdedTurn (ended : Bool) : Turn Nat where
  isCancelled job := job.index == 1
  sighting _ := { arrival := .envelope (.success 7), ended, cancelled := true, overdue := true }

/-- Two tasks and one worker: the first task is reported with its envelope, although it was cancelled
and overdue when that arrived, and the second is never started. -/
theorem run_safe_crowded :
    let start : State Nat := .initial (batch ["a", "b"])
    let state := start.run 1 100 [crowdedTurn false]
    let late := [crowdedTurn true, crowdedTurn true]
    let final := state.run 1 100 late
    (⟨1, "b"⟩ ∈ state.queue ∧ (∀ turn ∈ late, turn.isCancelled ⟨1, "b"⟩ = true) ∧
      ⟨1, "b"⟩ ∉ State.everRunning 1 100 late state) ∧
    ((⟨0, "a"⟩, .success 7) ∈ State.received 1 100 [crowdedTurn false] start ∧
      final.Holds ⟨0, "a"⟩ (.success 7)) ∧
    (final.isDone = true ∧ (final.results (batch ["a", "b"])).map Outcome.job = batch ["a", "b"]) := by
  intro start state late final
  have hwaits : (⟨1, "b"⟩ : Job) ∈ state.queue := by decide
  have hcancelled : ∀ turn ∈ late, turn.isCancelled ⟨1, "b"⟩ = true := by
    simp [late, crowdedTurn]
  have hreceived : (⟨0, "a"⟩, .success 7) ∈ State.received 1 100 [crowdedTurn false] start := by
    decide
  have hdone : final.isDone = true := by decide
  obtain ⟨-, -, -, -, -, hspared, hkept⟩ :=
    run_safe 1 100 ["a", "b"] [crowdedTurn false] late
  have hrun : start.run 1 100 ([crowdedTurn false] ++ late) = final := List.foldl_append
  have hresults := (run_safe 1 100 ["a", "b"] ([crowdedTurn false] ++ late) []).2.2.2.2.1
  rw [hrun] at hresults
  exact ⟨⟨hwaits, hcancelled, (hspared _ hwaits hcancelled).1⟩,
    ⟨hreceived, (hkept _ _ hreceived).1⟩, hdone, (hresults hdone).1⟩

end ChangeLens.Pool
