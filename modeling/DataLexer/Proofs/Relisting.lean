import Mathlib.Data.List.Nodup
import DataLexer.FileTree

namespace DataLexer

namespace Entry

/-- What an entry is, without what is in it. -/
def outline : Entry → Entry
  | directory _ => directory []
  | entry => entry

theorem outline_eq_link {entry : Entry} {target : String} :
    entry.outline = link target ↔ entry = link target := by
  cases entry <;> simp [outline]

theorem outline_eq_file {entry : Entry} {bytes : ByteArray} :
    entry.outline = file bytes ↔ entry = file bytes := by
  cases entry <;> simp [outline]

/-- The directories of the second entry list what is in those of the first, in any order. -/
inductive Relisted : Entry → Entry → Prop
  | refl (entry : Entry) : Relisted entry entry
  | trans {first second third : Entry} :
      Relisted first second → Relisted second third → Relisted first third
  | reorder {entries others : List (String × Entry)} : (entries.map Prod.fst).Nodup →
      entries.Perm others → Relisted (directory entries) (directory others)
  | inside {before : List (String × Entry)} {name : String} {old new : Entry}
      {behind : List (String × Entry)} : Relisted old new →
      Relisted (directory (before ++ (name, old) :: behind)) (directory (before ++ (name, new) :: behind))

variable {first second entry : Entry}

theorem Relisted.symm (relisted : Relisted first second) : Relisted second first := by
  induction relisted with
  | refl entry => exact .refl entry
  | trans _ _ one other => exact other.trans one
  | reorder distinct perm => exact .reorder ((perm.map Prod.fst).nodup_iff.mp distinct) perm.symm
  | inside _ ih => exact .inside ih

theorem Relisted.outline_eq (relisted : Relisted first second) : first.outline = second.outline := by
  induction relisted with
  | refl => rfl
  | trans _ _ one other => exact one.trans other
  | reorder | inside => rfl

theorem lookup_eq_some_iff {entries : List (String × Entry)} (distinct : (entries.map Prod.fst).Nodup)
    {name : String} : lookup entries name = some entry ↔ (name, entry) ∈ entries := by
  induction entries with
  | nil => simp [lookup]
  | cons head entries ih =>
    obtain ⟨other, here⟩ := head
    obtain ⟨fresh, others⟩ := List.nodup_cons.mp distinct
    by_cases same : other = name
    · subst same
      have absent : (other, entry) ∉ entries := by
        intro member
        exact fresh (List.mem_map.mpr ⟨(other, entry), member, rfl⟩)
      simp [lookup, absent, eq_comm]
    · have later := ih others
      simp only [lookup] at later ⊢
      simp [same, Ne.symm same, later]

theorem lookup_perm {entries others : List (String × Entry)} (distinct : (entries.map Prod.fst).Nodup)
    (perm : entries.Perm others) (name : String) : lookup entries name = lookup others name := by
  ext entry
  rw [lookup_eq_some_iff distinct, lookup_eq_some_iff ((perm.map Prod.fst).nodup_iff.mp distinct),
    perm.mem_iff]

/-- Looking for a name, with an entry in the middle of the list. -/
theorem lookup_append_cons (before behind : List (String × Entry)) (name sought : String) (entry : Entry) :
    lookup (before ++ (name, entry) :: behind) sought = (lookup before sought).or
      (if name = sought then some entry else lookup behind sought) := by
  unfold lookup
  rw [List.find?_append, Option.map_or]
  by_cases same : name = sought <;> simp [same]

/-- What is below an entry is below it in every listing. -/
theorem Relisted.at?_eq_some (relisted : Relisted first second) {names : List String}
    (found : first.at? names = some entry) :
    ∃ other, second.at? names = some other ∧ Relisted entry other := by
  induction relisted generalizing names entry with
  | refl => exact ⟨entry, found, .refl entry⟩
  | trans _ _ one other =>
    obtain ⟨middle, at_middle, near⟩ := one found
    obtain ⟨last, at_last, far⟩ := other at_middle
    exact ⟨last, at_last, near.trans far⟩
  | reorder distinct perm =>
    cases names with
    | nil =>
      cases found
      exact ⟨_, rfl, .reorder distinct perm⟩
    | cons name names =>
      rw [at?, lookup_perm distinct perm] at found
      exact ⟨entry, found, .refl entry⟩
  | @inside before name old new behind relisted ih =>
    cases names with
    | nil =>
      cases found
      exact ⟨_, rfl, .inside relisted⟩
    | cons sought names =>
      simp only [at?, lookup_append_cons] at found ⊢
      cases earlier : lookup before sought with
      | some here =>
        rw [earlier] at found
        exact ⟨entry, found, .refl entry⟩
      | none =>
        rw [earlier] at found
        by_cases same : name = sought
        · simp only [same, if_true, Option.none_or, Option.bind_some] at found ⊢
          exact ih found
        · simp only [same, if_false] at found ⊢
          exact ⟨entry, found, .refl entry⟩

theorem Relisted.at?_outline (relisted : Relisted first second) (names : List String) :
    (first.at? names).map outline = (second.at? names).map outline := by
  cases found : first.at? names with
  | some entry =>
    obtain ⟨other, there, same⟩ := relisted.at?_eq_some found
    rw [there, Option.map_some, Option.map_some, same.outline_eq]
  | none =>
    cases there : second.at? names with
    | none => rfl
    | some other =>
      obtain ⟨entry, here, _⟩ := relisted.symm.at?_eq_some there
      rw [found] at here
      cases here

/-- A name stands for a link in one listing if it does in the other. -/
theorem lookup_eq_link {entries others : List (String × Entry)} {name target : String}
    (same : (lookup entries name).map outline = (lookup others name).map outline)
    (found : lookup entries name = some (link target)) : lookup others name = some (link target) := by
  rw [found, Option.map_some, eq_comm, Option.map_eq_some_iff] at same
  obtain ⟨entry, there, outlined⟩ := same
  rw [there, outline_eq_link.mp outlined]

/-- A name in a directory leads to what is below the directory. -/
theorem at?_append_singleton {root : Entry} {place : List String} {entries : List (String × Entry)}
    (found : root.at? place = some (directory entries)) (name : String) :
    root.at? (place ++ [name]) = lookup entries name := by
  induction place generalizing root with
  | nil =>
    cases found
    simp [at?]
  | cons next place ih =>
    cases root with
    | directory others =>
      rw [at?] at found
      obtain ⟨below, seen, rest⟩ := Option.bind_eq_some_iff.mp found
      rw [List.cons_append, at?, seen]
      exact ih rest
    | file | link => cases found

end Entry

namespace FileTree

/-- The directories of the second tree list what is in those of the first, in any order. -/
structure Relisted (tree other : FileTree) : Prop where
  root : tree.root.Relisted other.root
  workingDirectory : tree.workingDirectory = other.workingDirectory
  homeDirectory : tree.homeDirectory = other.homeDirectory

variable {tree other : FileTree}

theorem Relisted.symm (relisted : Relisted tree other) : Relisted other tree where
  root := relisted.root.symm
  workingDirectory := relisted.workingDirectory.symm
  homeDirectory := relisted.homeDirectory.symm

/-- A directory is one in the other tree too, and its names stand for the same there. -/
theorem Relisted.at?_directory (relisted : Relisted tree other) {place : List String}
    {entries : List (String × Entry)} (found : tree.root.at? place = some (.directory entries)) :
    ∃ others, other.root.at? place = some (.directory others) ∧ ∀ name,
      (Entry.lookup entries name).map Entry.outline = (Entry.lookup others name).map Entry.outline := by
  obtain ⟨there, seen, same⟩ := relisted.root.at?_eq_some found
  have outline := same.outline_eq
  cases there with
  | directory others =>
    refine ⟨others, seen, ?_⟩
    intro name
    rw [← Entry.at?_append_singleton found, ← Entry.at?_append_singleton seen, relisted.root.at?_outline]
  | file | link => cases outline

theorem Relisted.follow_eq (relisted : Relisted tree other) (links : Nat) (place steps : List String) :
    tree.follow links place steps = other.follow links place steps := by
  fun_induction FileTree.follow tree links place steps with
  | case1 => rw [follow]
  | case2 links place steps entries found ih =>
    obtain ⟨others, there, _⟩ := relisted.at?_directory found
    rw [follow, there]
    simp [ih]
  | case3 links place steps entries found up ih =>
    obtain ⟨others, there, _⟩ := relisted.at?_directory found
    rw [follow, there]
    simp [ih]
  | case4 links place step steps entries found here up long =>
    obtain ⟨others, there, _⟩ := relisted.at?_directory found
    rw [follow, there]
    simp [here, up, long]
  | case5 links place step steps entries found here up short missing =>
    obtain ⟨others, there, same⟩ := relisted.at?_directory found
    have absent : Entry.lookup others step = none := by simpa [missing] using (same step).symm
    rw [follow, there]
    simp [here, up, short, absent]
  | case6 place step steps entries found here up short target link =>
    obtain ⟨others, there, same⟩ := relisted.at?_directory found
    have also := Entry.lookup_eq_link (same step) link
    rw [follow, there]
    simp [here, up, short, also]
  | case7 place step steps entries found here up short target link links start ih =>
    obtain ⟨others, there, same⟩ := relisted.at?_directory found
    have also := Entry.lookup_eq_link (same step) link
    rw [follow, there]
    simpa [here, up, short, also, start] using ih
  | case8 links place step steps entries found here up short entry plain present ih =>
    obtain ⟨others, there, same⟩ := relisted.at?_directory found
    obtain ⟨twin, also, outline⟩ : ∃ twin, Entry.lookup others step = some twin ∧
        twin.outline = entry.outline := by
      simpa [present] using (same step).symm
    rw [follow, there]
    cases twin with
    | link target => exact absurd (Entry.outline_eq_link.mp outline.symm) (plain target)
    | file | directory => simpa [here, up, short, also] using ih
  | case9 links place step steps none =>
    rw [follow]
    split
    next others there =>
      obtain ⟨entries, found, _⟩ := relisted.symm.at?_directory there
      exact absurd found (none entries)
    next => rfl

theorem Relisted.resolve_eq (relisted : Relisted tree other) (path : String) :
    tree.resolve path = other.resolve path := by
  simp only [resolve, relisted.workingDirectory, relisted.follow_eq]

theorem find_eq_ok_iff {path : String} {entry : Entry} : tree.find path = .ok entry ↔
    ∃ place, tree.resolve path = .ok place ∧ tree.root.at? place = some entry := by
  unfold find
  cases tree.resolve path with
  | error cause => exact ⟨nofun, nofun⟩
  | ok place =>
    simp only [bind, Except.bind]
    cases seen : tree.root.at? place <;> simp [pure, Except.pure, throw, throwThe, MonadExceptOf.throw, seen]

/-- A path leads to the same entry in both trees, up to the listings in it. -/
theorem Relisted.find_ok (relisted : Relisted tree other) {path : String} {entry : Entry}
    (found : tree.find path = .ok entry) : ∃ twin, other.find path = .ok twin ∧ entry.Relisted twin := by
  obtain ⟨place, resolved, seen⟩ := find_eq_ok_iff.mp found
  obtain ⟨twin, there, same⟩ := relisted.root.at?_eq_some seen
  exact ⟨twin, find_eq_ok_iff.mpr ⟨place, relisted.resolve_eq path ▸ resolved, there⟩, same⟩

theorem isFile_iff {path : String} :
    tree.isFile path = true ↔ ∃ bytes, tree.find path = .ok (.file bytes) := by
  unfold isFile
  split <;> simp_all

theorem isDirectory_iff {path : String} :
    tree.isDirectory path = true ↔ ∃ entries, tree.find path = .ok (.directory entries) := by
  unfold isDirectory
  split <;> simp_all

theorem Relisted.isFile (relisted : Relisted tree other) {path : String} (file : tree.isFile path = true) :
    other.isFile path = true := by
  obtain ⟨bytes, found⟩ := isFile_iff.mp file
  obtain ⟨twin, there, same⟩ := relisted.find_ok found
  rw [isFile_iff]
  exact ⟨bytes, Entry.outline_eq_file.mp same.outline_eq.symm ▸ there⟩

theorem Relisted.isDirectory (relisted : Relisted tree other) {path : String}
    (directory : tree.isDirectory path = true) : other.isDirectory path = true := by
  obtain ⟨entries, found⟩ := isDirectory_iff.mp directory
  obtain ⟨twin, there, same⟩ := relisted.find_ok found
  have outline := same.outline_eq
  rw [isDirectory_iff]
  cases twin with
  | directory others => exact ⟨others, there⟩
  | file | link => cases outline

end FileTree

end DataLexer
