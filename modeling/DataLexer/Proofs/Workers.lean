import Mathlib.Algebra.GroupWithZero.Nat
import DataLexer.Check.Workers

namespace DataLexer

section OneByOne

variable {tree : FileTree} {failFast color : Bool}

theorem path_checkFile (path : String) : (checkFile tree path color).path = path := by
  unfold checkFile
  split <;> rfl

/-- One of the documents fails when it is checked on its own. -/
def anyFails (tree : FileTree) (color : Bool) (paths : List String) : Bool :=
  paths.any fun path => (checkFile tree path color).status = .failed

theorem anyFails_append_singleton (earlier : List String) (path : String) :
    anyFails tree color (earlier ++ [path]) =
      (anyFails tree color earlier || (checkFile tree path color).status = .failed) := by
  simp [anyFails]

/-- The report on the last document hangs on those before it. -/
theorem checkFiles_append_singleton (earlier : List String) (path : String) :
    checkFiles tree failFast color (earlier ++ [path]) = checkFiles tree failFast color earlier ++
      [if failFast && anyFails tree color earlier then .skipped path else checkFile tree path color] := by
  induction earlier with
  | nil => simp [checkFiles, anyFails]
  | cons first earlier ih =>
    rw [List.cons_append, checkFiles, checkFiles]
    by_cases fails : (checkFile tree first color).status = .failed
    · cases failFast with
      | true => simp [fails, anyFails]
      | false => simpa [anyFails] using ih
    · simpa [fails, anyFails] using ih

end OneByOne

namespace CheckTask

/-- The task of a document that has its report. -/
def ofReport (report : FileReport) : CheckTask := ⟨report.path, .reported report⟩

/-- The report of a document, if it is there, is the one that the document has on its own, or it says that
the document was left out with the flag up. -/
def Accounted (tree : FileTree) (failFast color stop : Bool) (task : CheckTask) : Prop :=
  ∀ report, task.progress = .reported report → report = checkFile tree task.path color ∨
    failFast = true ∧ stop = true ∧ report = .skipped task.path

def HasFailed (task : CheckTask) : Prop :=
  ∃ report, task.progress = .reported report ∧ report.status = .failed

/-- What is left to do for a document. -/
def left (task : CheckTask) : Nat :=
  match task.progress with
  | .waiting => 2
  | .underWay => 1
  | .reported _ => 0

end CheckTask

/-- Two cuts of one list at the elements `x` and `y`: they are the same, or one of the elements stands in
the other part. -/
theorem cut_eq_or_mem {α : Type} {before after done rest : List α} {x y : α}
    (same : before ++ x :: after = done ++ y :: rest) :
    (before = done ∧ x = y ∧ after = rest) ∨ x ∈ done ∨ y ∈ before ∧ x ∈ rest := by
  rcases List.append_eq_append_iff.mp same with ⟨more, split, tail⟩ | ⟨more, split, tail⟩
  · cases more with
    | nil =>
      obtain ⟨head, behind⟩ := List.cons.inj tail
      exact Or.inl ⟨by simpa using split.symm, head, behind⟩
    | cons first more =>
      obtain ⟨rfl, _⟩ := List.cons.inj tail
      exact Or.inr (Or.inl (by simp [split]))
  · cases more with
    | nil =>
      obtain ⟨head, behind⟩ := List.cons.inj tail
      exact Or.inl ⟨by simpa using split, head.symm, behind.symm⟩
    | cons first more =>
      obtain ⟨rfl, behind⟩ := List.cons.inj tail
      exact Or.inr (Or.inr ⟨by simp [split], by simp [behind]⟩)

namespace CheckPool

variable {tree : FileTree} {failFast color : Bool} {jobs : Nat} {paths : List String}
  {pool after : CheckPool}

/-- Every report is accounted for, and the flag is up only behind a document that has failed. -/
structure Sound (tree : FileTree) (failFast color : Bool) (paths : List String) (pool : CheckPool) :
    Prop where
  paths : pool.tasks.map (·.path) = paths
  accounted : ∀ task ∈ pool.tasks, task.Accounted tree failFast color pool.stop
  raised : pool.stop = true → ∃ task ∈ pool.tasks, task.HasFailed

theorem sound_ofPaths (paths : List String) : Sound tree failFast color paths (.ofPaths paths) where
  paths := by simp [ofPaths, Function.comp_def]
  accounted := by
    intro task member report reported
    obtain ⟨path, _, rfl⟩ := List.mem_map.mp member
    cases reported
  raised := nofun

/-- A document moves on, and the flag may be raised for it. -/
theorem Sound.moveOn {before behind : List CheckTask} {path : String} {old new : CheckProgress}
    {stop stop' : Bool} (sound : Sound tree failFast color paths ⟨before ++ ⟨path, old⟩ :: behind, stop⟩)
    (unreported : ∀ report, old ≠ .reported report) (kept : stop = true → stop' = true)
    (accounted : CheckTask.Accounted tree failFast color stop' ⟨path, new⟩)
    (raised : stop' = true → stop = true ∨ CheckTask.HasFailed ⟨path, new⟩) :
    Sound tree failFast color paths ⟨before ++ ⟨path, new⟩ :: behind, stop'⟩ where
  paths := by simpa using sound.paths
  accounted := by
    have lift (task : CheckTask) (earlier : task.Accounted tree failFast color stop) :
        task.Accounted tree failFast color stop' := by
      intro report reported
      exact (earlier report reported).imp_right fun ⟨fast, up, skipped⟩ => ⟨fast, kept up, skipped⟩
    have known := sound.accounted
    simp only [List.forall_mem_append, List.forall_mem_cons] at known ⊢
    exact ⟨fun task member => lift task (known.1 task member), accounted,
      fun task member => lift task (known.2.2 task member)⟩
  raised := by
    intro up
    rcases raised up with earlier | here
    · obtain ⟨task, member, report, reported, failed⟩ := sound.raised earlier
      refine ⟨task, ?_, report, reported, failed⟩
      rcases List.mem_append.mp member with first | rest
      · exact List.mem_append_left _ first
      · rcases List.mem_cons.mp rest with rfl | last
        · exact absurd reported (unreported report)
        · exact List.mem_append_right _ (List.mem_cons_of_mem _ last)
    · exact ⟨⟨path, new⟩, by simp, here⟩

theorem Sound.step (sound : Sound tree failFast color paths pool)
    (step : Step tree failFast color jobs pool after) : Sound tree failFast color paths after := by
  cases step with
  | skip _ fast up =>
    refine sound.moveOn (by simp) id ?_ Or.inl
    rintro _ ⟨⟩
    exact Or.inr ⟨fast, up, rfl⟩
  | take => exact sound.moveOn (by simp) id nofun Or.inl
  | report =>
    refine sound.moveOn (by simp) (fun up => by simp [up]) ?_ ?_
    · rintro _ ⟨⟩
      exact Or.inl rfl
    · intro up
      rw [Bool.or_eq_true] at up
      exact up.imp_right fun failed => ⟨_, rfl, of_decide_eq_true failed⟩

theorem Reached.sound (reached : Reached tree failFast color jobs paths pool) :
    Sound tree failFast color paths pool := by
  induction reached with
  | start => exact sound_ofPaths paths
  | next _ step ih => exact ih.step step

/-- Each report that the workers come to an end with stands in the place of its document. -/
theorem Sound.tasks_eq (sound : Sound tree failFast color paths pool) {reports : List FileReport}
    (ended : pool.tasks.map (·.progress) = reports.map .reported) :
    pool.tasks = reports.map .ofReport := by
  have accounted := sound.accounted
  generalize pool.tasks = tasks at ended accounted
  induction tasks generalizing reports with
  | nil =>
    rw [List.map_nil, eq_comm, List.map_eq_nil_iff] at ended
    rw [ended]
    rfl
  | cons task tasks ih =>
    cases reports with
    | nil => cases ended
    | cons report reports =>
      obtain ⟨here, others⟩ := List.cons.inj ended
      obtain ⟨first, later⟩ := List.forall_mem_cons.mp accounted
      have path : report.path = task.path := by
        rcases first report here with own | ⟨_, _, skipped⟩
        · rw [own, path_checkFile]
        · rw [skipped]
          rfl
      rw [List.map_cons, ← ih others later]
      obtain ⟨_, _⟩ := task
      cases here
      cases path
      rfl

/-- A single worker has dealt with the documents `earlier`, and it may be at the next one. -/
inductive InTurn (tree : FileTree) (failFast color : Bool) (paths : List String) : CheckPool → Prop
  | between (earlier later : List String) {tasks stop} : paths = earlier ++ later →
      tasks = (checkFiles tree failFast color earlier).map .ofReport ++ later.map (⟨·, .waiting⟩) →
      stop = anyFails tree color earlier → InTurn tree failFast color paths ⟨tasks, stop⟩
  | within (earlier : List String) (path : String) (later : List String) {tasks stop} :
      paths = earlier ++ path :: later →
      (failFast && anyFails tree color earlier) = false →
      tasks = (checkFiles tree failFast color earlier).map .ofReport ++
        ⟨path, .underWay⟩ :: later.map (⟨·, .waiting⟩) →
      stop = anyFails tree color earlier → InTurn tree failFast color paths ⟨tasks, stop⟩

theorem isReported_of_mem {reports : List FileReport} {task : CheckTask}
    (member : task ∈ reports.map CheckTask.ofReport) : task.isReported = true := by
  obtain ⟨report, _, rfl⟩ := List.mem_map.mp member
  rfl

/-- A single worker takes the first document that waits. -/
theorem next_in_turn {before behind : List CheckTask} {path : String} {later : List String}
    {reports : List FileReport} (reported : ∀ task ∈ before, task.isReported = true)
    (same : before ++ ⟨path, .waiting⟩ :: behind =
      reports.map CheckTask.ofReport ++ later.map (⟨·, .waiting⟩)) :
    before = reports.map CheckTask.ofReport ∧ ∃ rest, later = path :: rest ∧
      behind = rest.map (⟨·, .waiting⟩) := by
  cases later with
  | nil =>
    have member : ⟨path, .waiting⟩ ∈ reports.map CheckTask.ofReport := by
      rw [List.map_nil, List.append_nil] at same
      rw [← same]
      simp
    cases isReported_of_mem member
  | cons next rest =>
    rcases cut_eq_or_mem same with ⟨cut, here, tail⟩ | done | ⟨waits, _⟩
    · cases here
      exact ⟨cut, rest, rfl, tail⟩
    · cases isReported_of_mem done
    · cases reported _ waits

/-- While a document is under way the single worker takes no other one. -/
theorem not_next_within {before behind : List CheckTask} {path other : String} {later : List String}
    {reports : List FileReport} (reported : ∀ task ∈ before, task.isReported = true) :
    before ++ ⟨path, .waiting⟩ :: behind ≠
      reports.map CheckTask.ofReport ++ ⟨other, .underWay⟩ :: later.map (⟨·, .waiting⟩) := by
  intro same
  rcases cut_eq_or_mem same with ⟨_, here, _⟩ | done | ⟨underWay, _⟩
  · cases here
  · cases isReported_of_mem done
  · cases reported _ underWay

theorem inTurn_ofPaths (paths : List String) : InTurn tree failFast color paths (.ofPaths paths) :=
  .between [] paths rfl rfl rfl

/-- The report on the next document is handed in. -/
theorem InTurn.handIn {earlier later : List String} {path : String} {report : FileReport} {stop : Bool}
    (split : paths = earlier ++ path :: later)
    (given : (if failFast && anyFails tree color earlier then .skipped path
      else checkFile tree path color) = report)
    (flag : (anyFails tree color earlier || (checkFile tree path color).status = .failed) = stop) :
    InTurn tree failFast color paths
      ⟨(checkFiles tree failFast color earlier).map .ofReport ++
        .ofReport report :: later.map (⟨·, .waiting⟩), stop⟩ := by
  refine .between (earlier ++ [path]) later (by simp [split]) ?_ ?_
  · rw [checkFiles_append_singleton, given]
    simp
  · rw [anyFails_append_singleton, flag]

theorem InTurn.step (inTurn : InTurn tree failFast color paths pool)
    (step : Step tree failFast color 1 pool after) : InTurn tree failFast color paths after := by
  cases step with
  | @skip _ path _ _ free fast up =>
    cases inTurn with
    | between earlier later split tasks flag =>
      obtain ⟨rfl, rest, rfl, rfl⟩ := next_in_turn (free.order rfl) tasks
      have given : (if failFast && anyFails tree color earlier then .skipped path
          else checkFile tree path color) = .skipped path := by simp [fast, ← flag, up]
      exact .handIn split given (by simp [← flag, up])
    | within _ _ _ _ _ tasks _ => exact absurd tasks (not_next_within (free.order rfl))
  | @take _ path _ _ free low =>
    cases inTurn with
    | between earlier later split tasks flag =>
      obtain ⟨rfl, rest, rfl, rfl⟩ := next_in_turn (free.order rfl) tasks
      refine .within earlier path rest split ?_ rfl flag
      rw [Bool.and_eq_false_imp]
      intro fast
      exact Bool.eq_false_iff.mpr fun up => low fast (flag.trans up) rfl
    | within _ _ _ _ _ tasks _ => exact absurd tasks (not_next_within (free.order rfl))
  | @report before path behind stop =>
    cases inTurn with
    | between earlier later _ tasks _ =>
      have member : ⟨path, .underWay⟩ ∈ (checkFiles tree failFast color earlier).map CheckTask.ofReport ++
          later.map (⟨·, .waiting⟩) := by
        rw [← tasks]
        simp
      rcases List.mem_append.mp member with done | waits
      · cases isReported_of_mem done
      · obtain ⟨_, _, same⟩ := List.mem_map.mp waits
        cases same
    | within earlier next later split low tasks flag =>
      rcases cut_eq_or_mem tasks with ⟨rfl, here, rfl⟩ | done | ⟨_, waits⟩
      · cases here
        have given : (if failFast && anyFails tree color earlier then .skipped path
            else checkFile tree path color) = checkFile tree path color := by simp [low]
        have whole := InTurn.handIn split given rfl
        rw [← flag] at whole
        rwa [CheckTask.ofReport, path_checkFile] at whole
      · cases isReported_of_mem done
      · obtain ⟨_, _, same⟩ := List.mem_map.mp waits
        cases same

theorem Reached.inTurn (reached : Reached tree failFast color 1 paths pool) :
    InTurn tree failFast color paths pool := by
  induction reached with
  | start => exact inTurn_ofPaths paths
  | next _ step ih => exact ih.step step

def left (pool : CheckPool) : Nat := (pool.tasks.map (·.left)).sum

/-- Each report stands in the place of its document, and it is the one that the document has on its own,
unless `failFast` is set and another document has failed. -/
structure Tells (tree : FileTree) (failFast color : Bool) (paths : List String)
    (reports : List FileReport) : Prop where
  paths : reports.map (·.path) = paths
  own : ∀ report ∈ reports, report = checkFile tree report.path color ∨
    failFast = true ∧ report = .skipped report.path ∧ ∃ other ∈ reports, other.status = .failed

theorem Gives.tells {reports : List FileReport} (gives : Gives tree failFast color jobs paths reports) :
    Tells tree failFast color paths reports := by
  obtain ⟨pool, reached, ended⟩ := gives
  have sound := reached.sound
  have tasks := sound.tasks_eq ended
  constructor
  case paths => simpa [tasks, CheckTask.ofReport, Function.comp_def] using sound.paths
  case own =>
    intro report member
    have task : CheckTask.ofReport report ∈ pool.tasks := tasks ▸ List.mem_map_of_mem member
    refine (sound.accounted _ task report rfl).imp_right fun ⟨fast, up, skipped⟩ => ⟨fast, skipped, ?_⟩
    obtain ⟨raiser, inside, other, reported, failed⟩ := sound.raised up
    rw [tasks] at inside
    obtain ⟨same, among, rfl⟩ := List.mem_map.mp inside
    cases reported
    exact ⟨other, among, failed⟩

end CheckPool

end DataLexer
