import DataLexer.Check

namespace DataLexer

/-- How far the check of a document has come. -/
inductive CheckProgress where
  | waiting
  | underWay
  | reported (report : FileReport)

/-- A document of a run. -/
structure CheckTask where
  path : String
  progress : CheckProgress := .waiting

namespace CheckTask

def isUnderWay (task : CheckTask) : Bool :=
  match task.progress with
  | .underWay => true
  | _ => false

def isReported (task : CheckTask) : Bool :=
  match task.progress with
  | .reported _ => true
  | _ => false

end CheckTask

/-- The documents of a run in their order, and the flag that one of them has failed. The workers share both:
each document is taken by one of them, and its report goes to its place in the list. -/
structure CheckPool where
  tasks : List CheckTask
  stop : Bool := false

namespace CheckPool

def ofPaths (paths : List String) : CheckPool := { tasks := paths.map fun path => { path } }

/-- A worker may take the document between `before` and `after`: one of the `jobs` workers is free, and a
single worker takes the documents in their order. -/
structure Free (jobs : Nat) (before after : List CheckTask) : Prop where
  worker : before.countP (·.isUnderWay) + after.countP (·.isUnderWay) < jobs
  order : jobs = 1 → ∀ task ∈ before, task.isReported = true

/-- One thing that a worker does: it leaves a document out because the flag is up, or takes it, or hands in
its report and raises the flag if the document has failed. One of several workers may look at the flag
before it learns that another one has raised it. -/
inductive Step (tree : FileTree) (failFast color : Bool) (jobs : Nat) : CheckPool → CheckPool → Prop
  | skip {before path after stop} : Free jobs before after → failFast = true → stop = true →
      Step tree failFast color jobs ⟨before ++ ⟨path, .waiting⟩ :: after, stop⟩
        ⟨before ++ ⟨path, .reported (.skipped path)⟩ :: after, stop⟩
  | take {before path after stop} : Free jobs before after →
      (failFast = true → stop = true → jobs ≠ 1) →
      Step tree failFast color jobs ⟨before ++ ⟨path, .waiting⟩ :: after, stop⟩
        ⟨before ++ ⟨path, .underWay⟩ :: after, stop⟩
  | report {before path after stop} :
      Step tree failFast color jobs ⟨before ++ ⟨path, .underWay⟩ :: after, stop⟩
        ⟨before ++ ⟨path, .reported (checkFile tree path color)⟩ :: after,
          stop || (checkFile tree path color).status = .failed⟩

/-- What the workers can come to from the documents at `paths`. -/
inductive Reached (tree : FileTree) (failFast color : Bool) (jobs : Nat) (paths : List String) :
    CheckPool → Prop
  | start : Reached tree failFast color jobs paths (.ofPaths paths)
  | next {pool after} : Reached tree failFast color jobs paths pool →
      Step tree failFast color jobs pool after → Reached tree failFast color jobs paths after

/-- The workers can come to an end with these reports, one in the place of each document. -/
def Gives (tree : FileTree) (failFast color : Bool) (jobs : Nat) (paths : List String)
    (reports : List FileReport) : Prop :=
  ∃ pool, Reached tree failFast color jobs paths pool ∧
    pool.tasks.map (·.progress) = reports.map .reported

end CheckPool

end DataLexer
