import Mathlib.Data.List.Induction
import Mathlib.Data.List.Sort
import DataLexer.Documents

namespace DataLexer

namespace PathPart

/-- The name that a part is, if it is one. -/
def text : PathPart → String
  | name text => text
  | _ => ""

theorem order_eq : order = compareLex (compareOn rank) (compareOn text) := by
  funext a b
  cases a <;> cases b <;> rfl

theorem eq_of_rank_of_text {a b : PathPart} (ranks : a.rank = b.rank) (texts : a.text = b.text) : a = b := by
  cases a <;> cases b <;> simp_all [rank, text]

instance : Std.TransCmp order := order_eq ▸ inferInstance

instance : Std.LawfulEqCmp order where
  compare_self := Std.ReflCmp.compare_self
  eq_of_compare {a b} same := by
    rw [order_eq, compareLex, Ordering.then_eq_eq] at same
    exact eq_of_rank_of_text (Std.LawfulEqOrd.eq_of_compare same.1) (Std.LawfulEqOrd.eq_of_compare same.2)

theorem orderAll_eq : orderAll = List.compareLex order := by
  funext as bs
  induction as generalizing bs with
  | nil => cases bs <;> rfl
  | cons a as ih =>
    cases bs with
    | nil => rfl
    | cons b bs =>
      rw [orderAll, List.compareLex, ih]
      cases a.order b <;> rfl

instance : Std.TransCmp orderAll := orderAll_eq ▸ inferInstance

instance : Std.LawfulEqCmp orderAll := orderAll_eq ▸ inferInstance

/-- The first parts come before the second ones. -/
def Before (as bs : List PathPart) : Prop := orderAll as bs = .lt

instance : IsTrans (List PathPart) Before where
  trans _ _ _ := Std.TransCmp.lt_trans

instance : Std.Irrefl Before where
  irrefl parts before := by
    have same : orderAll parts parts = .eq := Std.ReflCmp.compare_self
    rw [Before, same] at before
    cases before

instance : Std.Antisymm Before where
  antisymm parts _ before behind :=
    absurd (IsTrans.trans _ _ _ before behind) (Std.Irrefl.irrefl parts)

end PathPart

namespace Path

/-- The first path comes before the second one, part by part. -/
def Before (a b : String) : Prop := PathPart.Before (parts a) (parts b)

theorem before_of_lt {a b : String} (before : order a b = .lt) : Before a b := before

theorem before_of_gt {a b : String} (behind : order a b = .gt) : Before b a :=
  @Std.OrientedCmp.lt_of_gt _ PathPart.orderAll _ _ _ behind

theorem parts_eq_of_eq {a b : String} (same : order a b = .eq) : parts a = parts b :=
  @Std.LawfulEqCmp.eq_of_compare _ PathPart.orderAll _ _ _ same

end Path

theorem mem_insertPath {path other : String} {sorted : List String}
    (member : other ∈ insertPath path sorted) : other = path ∨ other ∈ sorted := by
  induction sorted with
  | nil => exact Or.inl (List.mem_singleton.mp member)
  | cons first sorted ih =>
    unfold insertPath at member
    split at member
    · exact List.mem_cons.mp member
    · exact Or.inr member
    · rcases List.mem_cons.mp member with rfl | later
      · exact Or.inr List.mem_cons_self
      · exact (ih later).imp_right (List.mem_cons_of_mem first)

theorem mem_insertPath_of_mem {path other : String} {sorted : List String} (member : other ∈ sorted) :
    other ∈ insertPath path sorted := by
  induction sorted with
  | nil => cases member
  | cons first sorted ih =>
    unfold insertPath
    split
    · exact List.mem_cons_of_mem path member
    · exact member
    · rcases List.mem_cons.mp member with rfl | later
      · exact List.mem_cons_self
      · exact List.mem_cons_of_mem first (ih later)

/-- A path is in the list afterwards, in some spelling. -/
theorem exists_mem_insertPath (path : String) (sorted : List String) :
    ∃ other ∈ insertPath path sorted, Path.parts other = Path.parts path := by
  induction sorted with
  | nil => exact ⟨path, List.mem_singleton_self path, rfl⟩
  | cons first sorted ih =>
    unfold insertPath
    split
    next => exact ⟨path, List.mem_cons_self, rfl⟩
    next same => exact ⟨first, List.mem_cons_self, (Path.parts_eq_of_eq same).symm⟩
    next =>
      obtain ⟨other, later, same⟩ := ih
      exact ⟨other, List.mem_cons_of_mem first later, same⟩

theorem pairwise_insertPath (path : String) {sorted : List String}
    (increasing : sorted.Pairwise Path.Before) : (insertPath path sorted).Pairwise Path.Before := by
  induction sorted with
  | nil => exact List.pairwise_singleton Path.Before path
  | cons first sorted ih =>
    obtain ⟨lower, others⟩ := List.pairwise_cons.mp increasing
    unfold insertPath
    split
    next before =>
      refine List.pairwise_cons.mpr ⟨?_, increasing⟩
      have next := Path.before_of_lt before
      refine List.forall_mem_cons.mpr ⟨next, ?_⟩
      exact fun other later => trans_of PathPart.Before next (lower other later)
    next => exact increasing
    next behind =>
      refine List.pairwise_cons.mpr ⟨?_, ih others⟩
      intro other member
      rcases mem_insertPath member with rfl | later
      · exact Path.before_of_gt behind
      · exact lower other later

/-- The list `sorted` is in increasing order, and each of `paths` is in it in a spelling that is among
them. -/
structure Gathers (paths sorted : List String) : Prop where
  increasing : sorted.Pairwise Path.Before
  among : ∀ path ∈ sorted, path ∈ paths
  covers : ∀ path ∈ paths, ∃ other ∈ sorted, Path.parts other = Path.parts path

theorem Gathers.insert {paths sorted : List String} (gathers : Gathers paths sorted) (path : String) :
    Gathers (paths ++ [path]) (insertPath path sorted) where
  increasing := pairwise_insertPath path gathers.increasing
  among := by
    intro other member
    rcases mem_insertPath member with rfl | earlier
    · exact List.mem_append_right paths (List.mem_singleton_self other)
    · exact List.mem_append_left [path] (gathers.among other earlier)
  covers := by
    intro other member
    rcases List.mem_append.mp member with earlier | last
    · obtain ⟨kept, inside, same⟩ := gathers.covers other earlier
      exact ⟨kept, mem_insertPath_of_mem inside, same⟩
    · rw [List.mem_singleton.mp last]
      exact exists_mem_insertPath path sorted

/-- All paths of a list are gathered by putting them in one after the other. -/
theorem gathers_foldl (paths : List String) :
    Gathers paths (paths.foldl (fun sorted path => insertPath path sorted) []) := by
  induction paths using List.reverseRecOn with
  | nil => exact ⟨.nil, nofun, nofun⟩
  | append_singleton paths path ih =>
    rw [List.foldl_append]
    exact ih.insert path

theorem Gathers.pairwise_parts {paths sorted : List String} (gathers : Gathers paths sorted) :
    (sorted.map Path.parts).Pairwise PathPart.Before :=
  List.pairwise_map.mpr gathers.increasing

/-- What is gathered hangs, up to the spelling, on nothing but the parts that occur. -/
theorem Gathers.map_parts_eq {paths sorted others gathered : List String} (gathers : Gathers paths sorted)
    (also : Gathers others gathered) (same : ∀ path, path ∈ paths ↔ path ∈ others) :
    sorted.map Path.parts = gathered.map Path.parts := by
  have occurs {paths sorted : List String} (gathers : Gathers paths sorted) (parts : List PathPart) :
      parts ∈ sorted.map Path.parts ↔ ∃ path ∈ paths, Path.parts path = parts := by
    rw [List.mem_map]
    constructor
    · rintro ⟨path, member, rfl⟩
      exact ⟨path, gathers.among path member, rfl⟩
    · rintro ⟨path, member, rfl⟩
      exact gathers.covers path member
  refine gathers.pairwise_parts.eq_of_mem_iff also.pairwise_parts ?_
  intro parts
  rw [occurs gathers, occurs also]
  simp only [same]

end DataLexer
