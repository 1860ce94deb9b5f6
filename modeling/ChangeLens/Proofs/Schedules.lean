import ChangeLens.Pool.Rehearsal
import ChangeLens.Proofs.PoolSafety

/-!
# `ChangeLens.Proofs.Schedules`: the order of events does not show in the outcomes

A worker that ends on its own can be seen in many ways: its envelope arrives in one turn and its end
is seen in another, or its end is seen first and the envelope is found in its pipe afterwards.
`Worker.Shows` says which sightings fit how a worker ends, and `State.Undisturbed` that all turns of
a run show nothing else: no task is cancelled and none is overdue.

`State.results_of_undisturbed` is the main result: whatever the number of workers and the order of
events, a pool that is done has for every task the result of its ending. A rehearsal is such a run,
and it does come to an end (`turnsOf_spec`).
-/

set_option autoImplicit false

namespace ChangeLens.Pool

universe u

variable {α : Type u}

/-! ### One worker -/

namespace Worker

/-- The sighting fits a worker that ends in this way, and neither a cancellation nor the time limit
interferes. -/
structure Shows (ending : Ending α) (worker : Worker α) (seen : Sighting α) : Prop where
  /-- Only its envelope arrives, and the news that nothing will arrive only if it sends none. -/
  arrival : seen.arrival = .nothing ∨
    (∃ sent, ending.envelope? = some sent ∧ seen.arrival = .envelope sent) ∨
    (ending.envelope? = none ∧ seen.arrival = .closed)
  /-- A worker sends its envelope before it ends, so an envelope that has not arrived is left. -/
  leftover : seen.ended = true → worker.envelope = none → seen.arrival = .nothing →
    seen.leftover = ending.envelope?
  /-- The exit code is that of its ending. -/
  exitCode : seen.ended = true → seen.exitCode = some ending.exitCode
  /-- Nobody cancels it. -/
  uncancelled : seen.cancelled = false
  /-- Its time does not run out. -/
  inTime : seen.overdue = false

/-- What the pool knows of a worker fits its ending. -/
structure Fits (ending : Ending α) (worker : Worker α) : Prop where
  /-- An envelope is that of its ending. -/
  envelope : ∀ sent, worker.envelope = some sent → ending.envelope? = some sent
  /-- It is closed only if it sends nothing. -/
  closed : worker.closed = true → ending.envelope? = none

/-- What arrives fits the ending the worker will have. -/
theorem Fits.receive {ending : Ending α} {worker : Worker α} {seen : Sighting α}
    (h : worker.Fits ending) (hshows : worker.Shows ending seen) :
    (worker.receive seen.arrival).Fits ending := by
  cases henvelope : worker.envelope with
  | some sent => rwa [receive_of_envelope henvelope]
  | none =>
    rcases hshows.arrival with harrival | ⟨sent, hsent, harrival⟩ | ⟨hnone, harrival⟩
    · rw [harrival]
      simpa only [Worker.receive, henvelope] using h
    · rw [harrival]
      simp only [Worker.receive, henvelope]
      exact ⟨fun other hother => by cases hother; exact hsent, h.closed⟩
    · rw [harrival]
      simp only [Worker.receive, henvelope]
      exact ⟨fun _ hother => h.envelope _ (henvelope ▸ hother), fun _ => hnone⟩

/-- The last envelope of a worker that is seen to have ended is that of its ending. -/
theorem Fits.lastEnvelope {ending : Ending α} {worker : Worker α} {seen : Sighting α}
    (h : worker.Fits ending) (hshows : worker.Shows ending seen) (hended : seen.ended = true) :
    (worker.receive seen.arrival).lastEnvelope seen.leftover = ending.envelope? := by
  have hreceived := h.receive hshows
  rw [Worker.lastEnvelope]
  cases henvelope : (worker.receive seen.arrival).envelope with
  | some sent => exact (hreceived.envelope sent henvelope).symm
  | none =>
    cases hclosed : (worker.receive seen.arrival).closed with
    | true => exact (hreceived.closed hclosed).symm
    | false =>
      -- Nothing has arrived, neither before nor in this turn.
      have hbefore : worker.envelope = none := by
        cases hworker : worker.envelope with
        | none => rfl
        | some sent => rw [receive_of_envelope hworker, hworker] at henvelope; cases henvelope
      rcases hshows.arrival with harrival | ⟨sent, -, harrival⟩ | ⟨-, harrival⟩
      · exact hshows.leftover hended hbefore harrival
      · simp [harrival, Worker.receive, hbefore] at henvelope
      · simp [harrival, Worker.receive, hbefore] at hclosed

/-- Attending to a worker leads to the result of its ending or leaves a worker that still fits. -/
theorem Fits.attend {ending : Ending α} {worker : Worker α} {seen : Sighting α}
    (h : worker.Fits ending) (hshows : worker.Shows ending seen) (timeoutMs : Int) :
    worker.attend timeoutMs seen = .inl ⟨worker.job, ending.result⟩ ∨
      ∃ next : Worker α, worker.attend timeoutMs seen = .inr next ∧ seen.ended = false ∧
        next.Fits ending := by
  have hreceived := h.receive hshows
  rw [Worker.attend, settle]
  cases hended : seen.ended with
  | true =>
    -- The worker has ended, so its last envelope is that of the ending and settles it.
    left
    rw [if_pos rfl, finish, h.lastEnvelope hshows hended, Ending.result]
    cases ending.envelope? with
    | some sent => simp
    | none => simp [hshows.exitCode hended]
  | false =>
    rw [if_neg Bool.false_ne_true]
    cases henvelope : (worker.receive seen.arrival).envelope with
    | some sent =>
      rw [if_pos (by rfl)]
      split
      · left
        rw [finish, Worker.lastEnvelope, henvelope, Ending.result,
          hreceived.envelope sent henvelope]
        simp
      · exact Or.inr ⟨_, rfl, rfl, hreceived⟩
    | none =>
      -- Without an envelope only a cancellation or the time limit could settle the worker.
      rw [hshows.uncancelled, hshows.inTime]
      exact Or.inr ⟨_, rfl, rfl, hreceived⟩

end Worker

/-! ### Runs -/

namespace State

/-- Everything that the turns show fits how the workers end on their own. -/
def Undisturbed (ending : Job → Ending α) (limit : Nat) (timeoutMs : Int) :
    List (Turn α) → State α → Prop
  | [], _ => True
  | turn :: later, state =>
    (∀ job, turn.isCancelled job = false) ∧
    (∀ worker ∈ (state.filled limit turn).running,
      worker.Shows (ending worker.job) (turn.sighting worker.job)) ∧
    Undisturbed ending limit timeoutMs later (state.step limit timeoutMs turn)

/-- What the pool knows and reports fits how the workers end. -/
structure Faithful (ending : Job → Ending α) (state : State α) : Prop where
  /-- Every running worker fits. -/
  running : ∀ worker ∈ state.running, worker.Fits (ending worker.job)
  /-- Every outcome is the result of an ending. -/
  outcomes : ∀ outcome ∈ state.outcomes, outcome.result = (ending outcome.job).result

/-- In the beginning there are neither workers nor outcomes. -/
theorem initial_faithful (ending : Job → Ending α) (jobs : List Job) :
    (initial jobs : State α).Faithful ending where
  running := List.forall_mem_nil _
  outcomes := List.forall_mem_nil _

/-- Nothing is known of a worker that has just been started. -/
theorem fill_faithful {ending : Job → Ending α} (limit : Nat) {isCancelled : Job → Bool}
    (hcancelled : ∀ job, isCancelled job = false) (queue : List Job) (running : List (Worker α))
    (outcomes : List (Outcome α)) (h : (State.mk queue running outcomes).Faithful ending) :
    (fill limit isCancelled queue running outcomes).Faithful ending := by
  fun_induction fill limit isCancelled queue running outcomes with
  | case1 => exact h
  | case2 job _ _ _ _ hjob => rw [hcancelled job] at hjob; cases hjob
  | case3 job queue running outcomes _ _ ih =>
    refine ih ⟨fun worker hworker => ?_, h.outcomes⟩
    rcases List.mem_append.1 hworker with hworker | hworker
    · exact h.running worker hworker
    · cases List.mem_singleton.1 hworker
      constructor
      · intro sent hsent
        cases hsent
      · intro hclosed
        cases hclosed
  | case4 => exact h

/-- A turn in which nothing is cancelled or out of time leads to the outcomes of the endings only.
-/
theorem Faithful.step {ending : Job → Ending α} {state : State α} (h : state.Faithful ending)
    {limit : Nat} {turn : Turn α} (hcancelled : ∀ job, turn.isCancelled job = false)
    (hshows : ∀ worker ∈ (state.filled limit turn).running,
      worker.Shows (ending worker.job) (turn.sighting worker.job)) (timeoutMs : Int) :
    (state.step limit timeoutMs turn).Faithful ending := by
  have hfilled : (state.filled limit turn).Faithful ending :=
    fill_faithful limit hcancelled _ _ _ h
  have hattend (worker : Worker α) (hworker : worker ∈ (state.filled limit turn).running) :=
    (hfilled.running worker hworker).attend (hshows worker hworker) timeoutMs
  constructor
  · -- A worker that goes on was attended to, and its task is that of the worker before.
    intro next hnext
    obtain ⟨attended, hattended, hright⟩ := List.mem_filterMap.1 hnext
    obtain ⟨worker, hworker, rfl⟩ := List.mem_map.1 hattended
    have hjob := worker.attend_job timeoutMs (turn.sighting worker.job)
    rcases hattend worker hworker with hsettled | ⟨kept, hkept, -, hfits⟩
    · rw [hsettled] at hright
      cases hright
    · rw [hkept] at hright hjob
      cases hright
      rwa [show next.job = worker.job from hjob]
  · intro outcome houtcome
    rcases List.mem_append.1 houtcome with hold | hnew
    · exact hfilled.outcomes outcome hold
    · obtain ⟨attended, hattended, hleft⟩ := List.mem_filterMap.1 hnew
      obtain ⟨worker, hworker, rfl⟩ := List.mem_map.1 hattended
      rcases hattend worker hworker with hsettled | ⟨kept, hkept, -, -⟩
      · rw [hsettled] at hleft
        cases hleft
        rfl
      · rw [hkept] at hleft
        cases hleft

/-- A run of such turns leads to the outcomes of the endings only. -/
theorem Faithful.run {ending : Job → Ending α} {state : State α} (h : state.Faithful ending)
    {limit : Nat} {timeoutMs : Int} {turns : List (Turn α)}
    (hturns : Undisturbed ending limit timeoutMs turns state) :
    (state.run limit timeoutMs turns).Faithful ending := by
  induction turns generalizing state with
  | nil => exact h
  | cons turn later ih =>
    obtain ⟨hcancelled, hshows, hlater⟩ := hturns
    exact ih (h.step hcancelled hshows timeoutMs) hlater

/-- Neither the number of workers nor the order of events shows in the results. -/
theorem results_of_undisturbed {ending : Job → Ending α} {limit : Nat} {timeoutMs : Int}
    {keys : List String} {turns : List (Turn α)}
    (hturns : Undisturbed ending limit timeoutMs turns (initial (batch keys)))
    (hdone : ((initial (batch keys)).run limit timeoutMs turns).isDone = true) :
    ((initial (batch keys)).run limit timeoutMs turns).results (batch keys) =
      (batch keys).map fun job => ⟨job, (ending job).result⟩ := by
  have horderly := (initial_orderly (α := α) limit (batch keys)).run timeoutMs turns
  have hfaithful := (initial_faithful ending (batch keys)).run hturns
  -- The outcome found for a task is its own and is faithful; nothing else is known of the run.
  rw [results, ← List.filterMap_eq_map]
  refine List.filterMap_congr fun job hjob => ?_
  obtain ⟨outcome, hmem, hfind, rfl⟩ := horderly.find?_outcome hdone hjob
  rw [hfind, Function.comp_apply, ← hfaithful.outcomes outcome hmem]

/-! ### Coming to an end -/

/-- Starting workers does not lengthen the queue. -/
theorem fill_queue_le (limit : Nat) (isCancelled : Job → Bool) (queue : List Job)
    (running : List (Worker α)) (outcomes : List (Outcome α)) :
    (fill limit isCancelled queue running outcomes).queue.length ≤ queue.length := by
  fun_induction fill limit isCancelled queue running outcomes with
  | case1 => exact Nat.le_refl _
  | case2 _ _ _ _ _ _ ih => exact Nat.le_trans ih (Nat.le_succ _)
  | case3 _ _ _ _ _ _ ih => exact Nat.le_trans ih (Nat.le_succ _)
  | case4 => exact Nat.le_refl _

/-- A free worker takes a task. -/
theorem fill_queue_lt {limit : Nat} (isCancelled : Job → Bool) (job : Job) (queue : List Job)
    {running : List (Worker α)} (outcomes : List (Outcome α)) (hfree : running.length < limit) :
    (fill limit isCancelled (job :: queue) running outcomes).queue.length ≤ queue.length := by
  rw [fill, if_pos hfree]
  split
  · exact fill_queue_le _ _ _ _ _
  · exact fill_queue_le _ _ _ _ _

/-- In a turn that sees all workers at their end, every worker is settled and the queue gets
shorter. -/
theorem step_of_ended {limit : Nat} (hlimit : 0 < limit) (timeoutMs : Int) {turn : Turn α}
    {state : State α} (hidle : state.running = [])
    (hended : ∀ worker ∈ (state.filled limit turn).running, (turn.sighting worker.job).ended = true) :
    (state.step limit timeoutMs turn).running = [] ∧
      (state.step limit timeoutMs turn).queue.length ≤ state.queue.length - 1 := by
  constructor
  · refine List.filterMap_eq_nil_iff.2 fun attended hattended => ?_
    obtain ⟨worker, hworker, rfl⟩ := List.mem_map.1 hattended
    rw [Worker.attend, Worker.settle, if_pos (hended worker hworker)]
    rfl
  · show (state.filled limit turn).queue.length ≤ _
    rw [filled, hidle]
    cases state.queue with
    | nil => exact fill_queue_le _ _ _ _ _
    | cons job queue => exact fill_queue_lt _ _ _ _ hlimit

end State

/-! ### Rehearsals -/

/-- A task is in the batch exactly if its key stands at its index. -/
theorem mem_batch {keys : List String} {job : Job} :
    job ∈ batch keys ↔ keys[job.index]? = some job.key := by
  rw [batch, List.mem_map]
  constructor
  · rintro ⟨⟨key, index⟩, hmem, rfl⟩
    exact List.mem_zipIdx_iff_getElem?.1 hmem
  · intro hkey
    exact ⟨(job.key, job.index), List.mem_zipIdx_iff_getElem?.2 hkey, rfl⟩

section Rehearsal

variable (ending : String → Ending α) (keys : List String) (hasLimit : Bool)

/-- A turn of a rehearsal shows every worker at its end. -/
theorem turnOf_shows (phase : Phase) {job : Job} (hjob : job ∈ batch keys) (worker : Worker α) :
    let turn := turnOf (keys.map fun key => Act.alone key (ending key)) hasLimit phase
    worker.Shows (ending job.key) (turn.sighting job) ∧ (turn.sighting job).ended = true := by
  intro turn
  have hact : (keys.map fun key => Act.alone key (ending key))[job.index]? =
      some (Act.alone job.key (ending job.key)) := by
    rw [List.getElem?_map, mem_batch.1 hjob, Option.map_some]
  have hseen : turn.sighting job =
      { arrival := (ending job.key).envelope?.elim .closed .envelope
        ended := true
        exitCode := some (ending job.key).exitCode } := by
    simp only [turn, turnOf, hact]
    rfl
  -- The worker shows its whole ending at once: the envelope or an end without one, and the exit
  -- code.
  rw [hseen]
  refine ⟨⟨?_, ?_, fun _ => rfl, rfl, rfl⟩, rfl⟩
  · cases (ending job.key).envelope? with
    | some sent => exact Or.inr (Or.inl ⟨sent, rfl, rfl⟩)
    | none => exact Or.inr (Or.inr ⟨rfl, rfl⟩)
  · intro _ _ hnothing
    cases henvelope : (ending job.key).envelope? <;> simp [henvelope] at hnothing

/-- Nothing is cancelled in the turns of a rehearsal. -/
theorem turnOf_isCancelled (phase : Phase) (job : Job) :
    (turnOf (keys.map fun key => Act.alone key (ending key)) hasLimit phase).isCancelled job =
      false := by
  simp only [turnOf, List.getElem?_map]
  cases keys[job.index]? <;> rfl

/-- Turns of a rehearsal, however many: they disturb nothing, and once there are as many as there are
tasks, the pool is done. -/
theorem rehearsal_spec {limit : Nat} (hlimit : 0 < limit) (timeoutMs : Int) (phases : List Phase)
    {state : State α} (horderly : state.Orderly limit (batch keys)) (hidle : state.running = []) :
    let acts := keys.map fun key => Act.alone key (ending key)
    let turns := phases.map (turnOf acts hasLimit)
    State.Undisturbed (fun job => ending job.key) limit timeoutMs turns state ∧
      (state.queue.length ≤ phases.length → (state.run limit timeoutMs turns).isDone = true) := by
  induction phases generalizing state with
  | nil =>
    refine ⟨trivial, fun hshort => ?_⟩
    have hqueue : state.queue = [] := List.eq_nil_of_length_eq_zero (Nat.le_zero.1 hshort)
    show (state.queue.isEmpty && state.running.isEmpty) = true
    rw [hqueue, hidle]
    rfl
  | cons phase later ih =>
    intro acts turns
    have hjob (worker : Worker α)
        (hworker : worker ∈ (state.filled limit (turnOf acts hasLimit phase)).running) :
        worker.job ∈ batch keys :=
      (horderly.filled _).placed.mem_iff.1
        (List.mem_append_right _ (List.mem_append_left _ (List.mem_map_of_mem hworker)))
    have hshows (worker : Worker α)
        (hworker : worker ∈ (state.filled limit (turnOf acts hasLimit phase)).running) :=
      turnOf_shows ending keys hasLimit phase (hjob worker hworker) worker
    -- No worker is left after the turn, so the next one begins as this one did.
    obtain ⟨hstopped, hshorter⟩ := State.step_of_ended hlimit timeoutMs hidle
      fun worker hworker => (hshows worker hworker).2
    obtain ⟨hundisturbed, hdone⟩ := ih (horderly.step timeoutMs _) hstopped
    refine ⟨⟨turnOf_isCancelled ending keys hasLimit phase,
      fun worker hworker => (hshows worker hworker).1, hundisturbed⟩, fun hlength => hdone ?_⟩
    rw [List.length_cons] at hlength
    omega

/-- A rehearsal of tasks that end on their own disturbs nothing and comes to an end. -/
theorem turnsOf_spec {limit : Nat} (hlimit : 0 < limit) (timeoutMs : Int) :
    let turns := turnsOf (keys.map fun key => Act.alone key (ending key)) hasLimit
    let start : State α := .initial (batch keys)
    State.Undisturbed (fun job => ending job.key) limit timeoutMs turns start ∧
      (start.run limit timeoutMs turns).isDone = true := by
  intro turns start
  have hturns : turns = ([Phase.quick, .late, .overdue].flatMap fun phase =>
      List.replicate keys.length phase).map
        (turnOf (keys.map fun key => Act.alone key (ending key)) hasLimit) := by
    simp [turns, turnsOf]
  obtain ⟨hundisturbed, hdone⟩ := rehearsal_spec ending keys hasLimit hlimit timeoutMs
    ([Phase.quick, .late, .overdue].flatMap fun phase => List.replicate keys.length phase)
    (State.initial_orderly (α := α) limit (batch keys)) rfl
  rw [← hturns] at hundisturbed hdone
  -- One phase alone has a turn for every task.
  refine ⟨hundisturbed, hdone ?_⟩
  simp only [State.initial, batch, List.length_map, List.length_zipIdx, List.flatMap_cons,
    List.flatMap_nil, List.length_append, List.length_replicate]
  omega

end Rehearsal

end ChangeLens.Pool
