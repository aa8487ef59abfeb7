import Mathlib.Data.Multiset.AddSub
import Mathlib.Logic.Relation
import KeyIntern.Scan
import KeyIntern.Proofs.KeywordSetLaws

/-! # Aggregation under every interleaving

`aggregate` reads the files of a project batch after batch, and inside a batch the files are
scanned by parallel tasks. A task reads its file and extracts its keywords, which touches nothing
shared; then, one atomic step at a time, it inserts its keywords into the shared set, or counts a
failure and hands a warning to the logger. The steps of the tasks of a batch interleave in any
order, and the next batch starts when every task of the batch has finished.

This module states that execution as a step relation on a pool of tasks, each the list of its
steps still to come, beside the shared state. The invariant is the outcome a pool is bound to
reach: its shared state after the remaining steps, seen through `View`, which forgets the order of
the reports. Every scheduling step keeps it (`PoolStep.outcome_eq`), since steps commute on a
view (`View.apply_right_comm`). So every run of a scan ends in the view of the sequential fold
`aggregate` (`ScanRun.view_eq_aggregate`).

Main statement: `interleaved_scan_result`. Every interleaving, for every batch size and every
order of the files, ends with the keywords of the files that scan, the number of files that fail,
and every listed file counted.
-/

namespace KeyIntern

open Files

/-! ## Tasks and their steps -/

/-- One atomic step of a scanning task on the state the tasks share. -/
inductive Effect where
  /-- an insertion into the shared keyword set -/
  | insert (k : String)
  /-- an increment of the failure counter -/
  | countFailure
  /-- a report handed to the logger -/
  | report (r : Report)

/-- The state the tasks of a scan share: the keyword set, the failure counter and the reports
handed to the logger so far. -/
structure Shared where
  keywords : KeywordSet
  failed : Nat
  reports : List Report

namespace Shared

/-- The shared state before any task runs. -/
def empty : Shared := ⟨KeywordSet.empty, 0, []⟩

/-- The result a scan answers from its final shared state and the list of files it was given. -/
def toResult (σ : Shared) (files : List String) : ScanResult :=
  ⟨σ.keywords, files.length, σ.failed⟩

end Shared

/-- The shared state after one step. -/
def Effect.apply (σ : Shared) : Effect → Shared
  | .insert k => { σ with keywords := σ.keywords.insert k }
  | .countFailure => { σ with failed := σ.failed + 1 }
  | .report r => { σ with reports := σ.reports ++ [r] }

/-- The warning a task hands to the logger when its file fails. -/
def scanWarning (file : String) (f : Failure) : Report :=
  ⟨.warn, "Failed to scan " ++ file ++ ": " ++ f.oneLine⟩

/-- The steps of the task that scans one file, in program order: an insertion for each keyword
of a file that scans, or a counted failure and its warning. -/
def taskEffects (scan : String → Except Failure KeywordSet) (file : String) : List Effect :=
  match scan file with
  | .ok ks => ks.toList.map .insert
  | .error f => [.countFailure, .report (scanWarning file f)]

/-! ## Interleaved runs -/

/-- The tasks of a batch, each the list of its steps still to come, beside the shared state. -/
abbrev Pool := List (List Effect) × Shared

/-- One scheduling step: some task with a step left takes it. -/
inductive PoolStep : Pool → Pool → Prop where
  | perform (before after : List (List Effect)) (e : Effect) (rest : List Effect) (σ : Shared) :
      PoolStep (before ++ (e :: rest) :: after, σ) (before ++ rest :: after, e.apply σ)

/-- A run of a batch: any interleaving of the steps of its tasks, until every task is done. -/
def BatchRun (tasks : List (List Effect)) (σ σ' : Shared) : Prop :=
  ∃ finished : List (List Effect), (∀ t ∈ finished, t = []) ∧
    Relation.ReflTransGen PoolStep (tasks, σ) (finished, σ')

/-- A run of a scan over its batches: each batch runs to its end before the next one starts. -/
inductive ScanRun (scan : String → Except Failure KeywordSet) :
    List (List String) → Shared → Shared → Prop where
  | nil (σ : Shared) : ScanRun scan [] σ σ
  | cons {batch : List String} {rest : List (List String)} {σ σ' σ'' : Shared}
      (first : BatchRun (batch.map (taskEffects scan)) σ σ')
      (later : ScanRun scan rest σ' σ'') : ScanRun scan (batch :: rest) σ σ''

/-! ## What a run is bound to reach -/

/-- What a shared state says of a scan's outcome, with the reports taken in any order. -/
structure View where
  keywords : KeywordSet
  failed : Nat
  reports : Multiset Report

/-- The view of a shared state. -/
def Shared.view (σ : Shared) : View := ⟨σ.keywords, σ.failed, σ.reports⟩

/-- One step on a view. -/
def View.apply (v : View) : Effect → View
  | .insert k => { v with keywords := v.keywords.insert k }
  | .countFailure => { v with failed := v.failed + 1 }
  | .report r => { v with reports := r ::ₘ v.reports }

theorem coe_append_report (reports : List Report) (r : Report) :
    ((reports ++ [r] : List Report) : Multiset Report) = r ::ₘ (reports : Multiset Report) := by
  rw [Multiset.cons_coe]
  exact Multiset.coe_eq_coe.2 (List.perm_append_singleton r reports)

@[simp] theorem Shared.view_apply (σ : Shared) (e : Effect) :
    (e.apply σ).view = σ.view.apply e := by
  cases e with
  | insert k => rfl
  | countFailure => rfl
  | report r => simp only [Effect.apply, View.apply, Shared.view, coe_append_report]

/-- Two steps commute on a view, so the steps of different tasks may come in either order. -/
theorem View.apply_right_comm (v : View) (e e' : Effect) :
    (v.apply e).apply e' = (v.apply e').apply e := by
  cases e <;> cases e'
  case insert.insert k j =>
    simp only [View.apply]
    rw [KeywordSet.insert_comm]
  case report.report r r' =>
    simp only [View.apply]
    rw [Multiset.cons_swap]
  all_goals rfl

theorem foldl_apply_perm {es es' : List Effect} (reordered : es.Perm es') (v : View) :
    es.foldl View.apply v = es'.foldl View.apply v :=
  reordered.foldl_eq' (fun _ _ _ _ w => View.apply_right_comm w _ _) v

/-- The view a pool is bound to reach: its shared state after all the steps left. -/
def Pool.outcome (p : Pool) : View := p.1.flatten.foldl View.apply p.2.view

/-- A scheduling step keeps the outcome: the step it takes is one of those left, and the order
they come in does not matter. -/
theorem PoolStep.outcome_eq {p q : Pool} (step : PoolStep p q) : p.outcome = q.outcome := by
  cases step with
  | perform before after e rest σ =>
    have moved : (before ++ (e :: rest) :: after).flatten.Perm
        (e :: (before ++ rest :: after).flatten) := by
      simp only [List.flatten_append, List.flatten_cons, List.cons_append]
      exact List.perm_middle
    simp only [Pool.outcome]
    rw [foldl_apply_perm moved, List.foldl_cons, Shared.view_apply]

theorem outcome_eq_of_steps {p q : Pool} (steps : Relation.ReflTransGen PoolStep p q) :
    p.outcome = q.outcome := by
  induction steps with
  | refl => rfl
  | tail _ step kept => exact kept.trans step.outcome_eq

/-- A batch run ends in the view its steps reach in program order. -/
theorem BatchRun.view_eq {tasks : List (List Effect)} {σ σ' : Shared}
    (run : BatchRun tasks σ σ') : σ'.view = tasks.flatten.foldl View.apply σ.view := by
  obtain ⟨finished, done, steps⟩ := run
  have ended : finished.flatten = [] := List.flatten_eq_nil_iff.2 done
  have kept := outcome_eq_of_steps steps
  simp only [Pool.outcome, ended, List.foldl_nil] at kept
  exact kept.symm

/-- A scan run ends in the view of the steps of its files' tasks, file after file. -/
theorem ScanRun.view_eq {scan : String → Except Failure KeywordSet}
    {batches : List (List String)} {σ σ' : Shared} (run : ScanRun scan batches σ σ') :
    σ'.view = (batches.flatten.flatMap (taskEffects scan)).foldl View.apply σ.view := by
  induction run with
  | nil σ => rfl
  | cons first later ih =>
    rw [ih, first.view_eq, List.flatten_cons, List.flatMap_append, List.foldl_append]
    simp only [List.flatMap_def]

/-! ## Runs exist -/

/-- One task runs to its end while the others wait. -/
theorem steps_task (before after : List (List Effect)) (task : List Effect) (σ : Shared) :
    Relation.ReflTransGen PoolStep (before ++ task :: after, σ)
      (before ++ [] :: after, task.foldl Effect.apply σ) := by
  induction task generalizing σ with
  | nil => exact .refl
  | cons e rest ih => exact .head (PoolStep.perform before after e rest σ) (ih (e.apply σ))

/-- The tasks run one after the other, each to its end. -/
theorem steps_inOrder (before tasks : List (List Effect)) (σ : Shared) :
    Relation.ReflTransGen PoolStep (before ++ tasks, σ)
      (before ++ tasks.map (fun _ => []), tasks.flatten.foldl Effect.apply σ) := by
  induction tasks generalizing before σ with
  | nil => simpa using Relation.ReflTransGen.refl
  | cons task tasks ih =>
    have first := steps_task before tasks task σ
    have rest := ih (before ++ [[]]) (task.foldl Effect.apply σ)
    simp only [List.append_assoc, List.singleton_append] at rest
    simpa [List.foldl_append] using first.trans rest

theorem BatchRun.inOrder (tasks : List (List Effect)) (σ : Shared) :
    BatchRun tasks σ (tasks.flatten.foldl Effect.apply σ) :=
  ⟨tasks.map (fun _ => []), by simp, by simpa using steps_inOrder [] tasks σ⟩

/-- Every list of batches has a run, so a statement about every run is about something. -/
theorem ScanRun.exists (scan : String → Except Failure KeywordSet)
    (batches : List (List String)) (σ : Shared) : ∃ σ', ScanRun scan batches σ σ' := by
  induction batches generalizing σ with
  | nil => exact ⟨σ, .nil σ⟩
  | cons batch rest ih =>
    obtain ⟨σ', later⟩ := ih _
    exact ⟨σ', .cons (BatchRun.inOrder _ σ) later⟩

/-! ## The sequential fold -/

/-- The view of the running result of `aggregate`. -/
def aggregateView (acc : ScanResult × List Report) : View :=
  ⟨acc.1.keywords, acc.1.filesFailed, acc.2⟩

theorem foldl_apply_inserts (v : View) (ks : List String) :
    (ks.map Effect.insert).foldl View.apply v =
      { v with keywords := ks.foldl KeywordSet.insert v.keywords } := by
  induction ks generalizing v with
  | nil => rfl
  | cons k ks ih =>
    rw [List.map_cons, List.foldl_cons, ih]
    rfl

/-- One file of the sequential fold takes the steps of its task in order. -/
theorem aggregateView_step (scan : String → Except Failure KeywordSet)
    (acc : ScanResult × List Report) (file : String) :
    aggregateView (aggregateStep scan acc file) =
      (taskEffects scan file).foldl View.apply (aggregateView acc) := by
  cases scanned : scan file with
  | ok ks =>
    -- a union is the insertion of the second set's keywords, one after the other
    simp only [aggregateStep, taskEffects, scanned, foldl_apply_inserts]
    rfl
  | error f =>
    simp only [aggregateStep, taskEffects, scanned, List.foldl_cons, List.foldl_nil, View.apply,
      aggregateView, coe_append_report, scanWarning]

theorem aggregateView_foldl (scan : String → Except Failure KeywordSet) (files : List String)
    (acc : ScanResult × List Report) :
    aggregateView (files.foldl (aggregateStep scan) acc) =
      (files.flatMap (taskEffects scan)).foldl View.apply (aggregateView acc) := by
  induction files generalizing acc with
  | nil => rfl
  | cons file files ih =>
    rw [List.foldl_cons, ih, List.flatMap_cons, List.foldl_append, aggregateView_step]

theorem filesFailed_foldl (scan : String → Except Failure KeywordSet) (files : List String)
    (acc : ScanResult × List Report) :
    (files.foldl (aggregateStep scan) acc).1.filesFailed =
      acc.1.filesFailed + files.countP (fun f => !(scan f).isOk) := by
  induction files generalizing acc with
  | nil => simp
  | cons file files ih =>
    rw [List.foldl_cons, ih, List.countP_cons]
    cases scanned : scan file with
    | ok ks => simp [aggregateStep, scanned, Except.isOk, Except.toBool]
    | error f =>
      simp [aggregateStep, scanned, Except.isOk, Except.toBool]
      omega

/-- Every run of a scan ends in the view of the sequential fold `aggregate`. -/
theorem ScanRun.view_eq_aggregate {scan : String → Except Failure KeywordSet}
    {files : List String} {size : Nat} {σ : Shared}
    (run : ScanRun scan (batches size files) Shared.empty σ) :
    σ.view = aggregateView (aggregate files size scan) := by
  have inOrder : (batches size files).flatten = files := flatten_batches_go _ _ _ (Nat.le_refl _)
  rw [run.view_eq, inOrder, aggregate_eq_foldl]
  exact (aggregateView_foldl scan files (⟨KeywordSet.empty, 0, 0⟩, [])).symm

/-- Every run of a scan answers what `aggregate` answers. -/
theorem ScanRun.toResult_eq_aggregate {scan : String → Except Failure KeywordSet}
    {files : List String} {size : Nat} {σ : Shared}
    (run : ScanRun scan (batches size files) Shared.empty σ) :
    σ.toResult files = (aggregate files size scan).1 := by
  have same := run.view_eq_aggregate
  simp only [Shared.view, aggregateView, View.mk.injEq] at same
  obtain ⟨keywords, failed, -⟩ := same
  rw [Shared.toResult, keywords, failed, ← aggregate_filesScanned files size scan]

theorem ScanRun.mem_keywords_iff {scan : String → Except Failure KeywordSet}
    {files : List String} {size : Nat} {σ : Shared}
    (run : ScanRun scan (batches size files) Shared.empty σ) (k : String) :
    k ∈ σ.keywords ↔ ∃ f ∈ files, ∃ ks, scan f = .ok ks ∧ k ∈ ks := by
  have same := congrArg ScanResult.keywords run.toResult_eq_aggregate
  simp only [Shared.toResult] at same
  rw [same, mem_aggregate_keywords]

theorem ScanRun.failed_eq {scan : String → Except Failure KeywordSet}
    {files : List String} {size : Nat} {σ : Shared}
    (run : ScanRun scan (batches size files) Shared.empty σ) :
    σ.failed = files.countP (fun f => !(scan f).isOk) := by
  have same := congrArg ScanResult.filesFailed run.toResult_eq_aggregate
  simp only [Shared.toResult] at same
  rw [same, aggregate_eq_foldl]
  simp only
  rw [filesFailed_foldl, Nat.zero_add]

/-! ## Every interleaving, every order, every batch size -/

/-- A file fails to scan exactly when its text cannot be read as UTF-8, or extraction fails on it. -/
theorem scanFile_isOk_eq_false_iff {fs : FileTree}
    {extract : String → String → Except Failure KeywordSet} {path : String} :
    (scanFile fs extract path).isOk = false ↔
      (fs.readText path).isOk = false ∨
        ∃ text, fs.readText path = .ok text ∧ (extract path text).isOk = false := by
  cases read : fs.readText path with
  | error e => simp [scanFile, read, Except.isOk, Except.toBool]
  | ok text => simp [scanFile, read, Except.isOk, Except.toBool]

/-- Every interleaving of the tasks of every batch ends with the keywords of the files that
scan, the number of files that cannot be read as UTF-8 or whose extraction fails, and every
listed file counted. Any other order of the same files, under any other batch size, ends with
the same result, and a file that fails takes no keyword of another away. -/
theorem interleaved_scan_result (fs : FileTree)
    (extract : String → String → Except Failure KeywordSet) {files files' : List String}
    {size size' : Nat} {σ σ' : Shared}
    (run : ScanRun (scanFile fs extract) (batches size files) Shared.empty σ)
    (run' : ScanRun (scanFile fs extract) (batches size' files') Shared.empty σ')
    (reordered : files.Perm files') :
    (∀ k, k ∈ σ.keywords ↔ ∃ f ∈ files, ∃ ks, scanFile fs extract f = .ok ks ∧ k ∈ ks) ∧
      σ.failed = files.countP (fun f => !(scanFile fs extract f).isOk) ∧
      σ.toResult files = σ'.toResult files' := by
  refine ⟨run.mem_keywords_iff, run.failed_eq, ?_⟩
  have keywords : σ.keywords = σ'.keywords := by
    apply KeywordSet.ext
    intro k
    rw [run.mem_keywords_iff, run'.mem_keywords_iff]
    constructor
    · rintro ⟨f, listed, found⟩
      exact ⟨f, reordered.mem_iff.1 listed, found⟩
    · rintro ⟨f, listed, found⟩
      exact ⟨f, reordered.mem_iff.2 listed, found⟩
  have failed : σ.failed = σ'.failed := by
    rw [run.failed_eq, run'.failed_eq]
    exact reordered.countP_eq _
  simp only [Shared.toResult, keywords, failed, reordered.length_eq]

/-- A project where `a.ts` imports keyword `k`; `b.ts` is missing. -/
def keywordBesideFailure : FileTree :=
  ⟨[("a.ts", .file "import \x7b k \x7d from 'virtual:keywords';\n".toUTF8)], []⟩

/-- How a scan reads a text with the default targets. -/
def defaultExtract (path text : String) : Except Failure KeywordSet :=
  .ok (discover (Targets.ofList []) path text).keywords

/-- A failing file neither hides the keyword of the file beside it nor makes the result depend on
the order of the files or the batch size, zero included. -/
theorem interleaved_scan_result_keyword_beside_failure :
    ∃ σ σ' : Shared,
      ScanRun (scanFile keywordBesideFailure defaultExtract) (batches 0 ["/a.ts", "/b.ts"])
          Shared.empty σ ∧
        ScanRun (scanFile keywordBesideFailure defaultExtract) (batches 5 ["/b.ts", "/a.ts"])
          Shared.empty σ' ∧
        List.Perm ["/a.ts", "/b.ts"] ["/b.ts", "/a.ts"] ∧
        "k" ∈ σ.keywords ∧ σ.failed = 1 ∧
        σ.toResult ["/a.ts", "/b.ts"] = σ'.toResult ["/b.ts", "/a.ts"] := by
  obtain ⟨σ, run⟩ := ScanRun.exists (scanFile keywordBesideFailure defaultExtract)
    (batches 0 ["/a.ts", "/b.ts"]) Shared.empty
  obtain ⟨σ', run'⟩ := ScanRun.exists (scanFile keywordBesideFailure defaultExtract)
    (batches 5 ["/b.ts", "/a.ts"]) Shared.empty
  have reordered : List.Perm ["/a.ts", "/b.ts"] ["/b.ts", "/a.ts"] := List.Perm.swap _ _ _
  obtain ⟨keywords, failed, same⟩ :=
    interleaved_scan_result keywordBesideFailure defaultExtract run run' reordered
  have read : keywordBesideFailure.readText "/a.ts" =
      .ok "import \x7b k \x7d from 'virtual:keywords';\n" := by
    decide +kernel
  have found : "k" ∈ (discover (Targets.ofList []) "/a.ts"
      "import \x7b k \x7d from 'virtual:keywords';\n").keywords :=
    KeywordSet.mem_def.2 (by decide +kernel)
  refine ⟨σ, σ', run, run', reordered, (keywords "k").2 ⟨"/a.ts", by simp, _, ?_, found⟩, ?_, same⟩
  · rw [scanFile, read]
    rfl
  · rw [failed]
    decide +kernel

end KeyIntern
