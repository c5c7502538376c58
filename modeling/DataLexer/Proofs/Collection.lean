import DataLexer.Proofs.PathOrder
import DataLexer.Proofs.Relisting

namespace DataLexer

/-- What stands at `path` is neither a directory nor a link to one, and its name is that of a document. -/
structure Entry.IsDocument (tree : FileTree) (settings : FileSettings) (path : String) (entry : Entry) :
    Prop where
  plain : ∀ entries, entry ≠ .directory entries
  leaf : ∀ target, entry = .link target → tree.isDirectory path = false
  extension : Path.hasExtension path settings.extensions = true

/-- `found` stands at `path` below a directory at `place`: right in it, or further down through directories
if `recursive` is set. -/
inductive Entry.Holds (recursive : Bool) : Entry → String → String → Entry → Prop
  | here {entries : List (String × Entry)} {place name : String} {found : Entry} : (name, found) ∈ entries →
      Holds recursive (.directory entries) place (Path.join place name) found
  | deeper {entries : List (String × Entry)} {place name path : String} {inner found : Entry} :
      recursive = true → (name, inner) ∈ entries → Holds recursive inner (Path.join place name) path found →
      Holds recursive (.directory entries) place path found

namespace FileTree

/-- A path given by name stands for the file that it leads to, or for the documents in a directory. -/
inductive StandsFor (tree : FileTree) (settings : FileSettings) (path : String) : String → Prop
  | itself : tree.isFile path = true → StandsFor tree settings path path
  | inside {directory found : Entry} {document : String} : tree.find path = .ok directory →
      directory.Holds settings.recursive path document found → found.IsDocument tree settings document →
      StandsFor tree settings path document

/-- A path leads to a file or to a directory. -/
def Leads (tree : FileTree) (path : String) : Prop := tree.isFile path = true ∨ tree.isDirectory path = true

end FileTree

section Walk

variable {tree : FileTree} {settings : FileSettings}

theorem Entry.holds_nil {recursive : Bool} {place path : String} {found : Entry} :
    ¬ Holds recursive (.directory []) place path found := by
  rintro (member | ⟨_, member, _⟩) <;> cases member

theorem Entry.holds_cons {recursive : Bool} {entries : List (String × Entry)} {name place path : String}
    {entry found : Entry} : Holds recursive (.directory ((name, entry) :: entries)) place path found ↔
      (path = Path.join place name ∧ found = entry ∨
        recursive = true ∧ Holds recursive entry (Path.join place name) path found) ∨
      Holds recursive (.directory entries) place path found := by
  constructor
  · rintro (member | ⟨deep, member, held⟩)
    · rcases List.mem_cons.mp member with same | later
      · cases same
        exact Or.inl (Or.inl ⟨rfl, rfl⟩)
      · exact Or.inr (.here later)
    · rcases List.mem_cons.mp member with same | later
      · cases same
        exact Or.inl (Or.inr ⟨deep, held⟩)
      · exact Or.inr (.deeper deep later held)
  · rintro ((⟨rfl, rfl⟩ | ⟨deep, held⟩) | (member | ⟨deep, member, held⟩))
    · exact .here List.mem_cons_self
    · exact .deeper deep List.mem_cons_self held
    · exact .here (List.mem_cons_of_mem _ member)
    · exact .deeper deep (List.mem_cons_of_mem _ member) held

/-- A file or a link is a document by its name alone. -/
theorem Entry.isDocument_file {bytes : ByteArray} {path : String} :
    IsDocument tree settings path (.file bytes) ↔ Path.hasExtension path settings.extensions = true :=
  ⟨fun document => document.extension, fun extension => ⟨nofun, nofun, extension⟩⟩

theorem Entry.isDocument_link {target path : String} : IsDocument tree settings path (.link target) ↔
    tree.isDirectory path = false ∧ Path.hasExtension path settings.extensions = true :=
  ⟨fun document => ⟨document.leaf target rfl, document.extension⟩,
    fun ⟨leaf, extension⟩ => ⟨nofun, fun _ _ => leaf, extension⟩⟩

theorem Entry.not_holds_file {recursive : Bool} {bytes : ByteArray} {place path : String} {found : Entry} :
    ¬ Holds recursive (.file bytes) place path found := nofun

theorem Entry.not_holds_link {recursive : Bool} {target place path : String} {found : Entry} :
    ¬ Holds recursive (.link target) place path found := nofun

mutual

/-- What an entry contributes: itself, or what is below it. -/
theorem Entry.mem_documents (entry : Entry) (path document : String) :
    document ∈ entry.documents tree settings path ↔
      (document = path ∧ entry.IsDocument tree settings path) ∨ settings.recursive = true ∧
        ∃ found, entry.Holds settings.recursive path document found ∧
          found.IsDocument tree settings document := by
  cases entry with
  | file bytes =>
    rw [Entry.documents, Entry.isDocument_file]
    simp only [Entry.not_holds_file]
    cases Path.hasExtension path settings.extensions <;> simp
  | link target =>
    rw [Entry.documents, Entry.isDocument_link]
    simp only [Entry.not_holds_link]
    cases tree.isDirectory path <;> cases Path.hasExtension path settings.extensions <;> simp
  | directory entries =>
    have inner := Entry.mem_documentsIn entries path document
    have never : ¬ Entry.IsDocument tree settings path (.directory entries) :=
      fun document => document.plain entries rfl
    rw [Entry.documents]
    cases deep : settings.recursive with
    | true => simpa [never, deep] using inner
    | false => simp [never]

theorem Entry.mem_documentsIn (entries : List (String × Entry)) (place document : String) :
    document ∈ Entry.documentsIn tree settings place entries ↔
      ∃ found, (Entry.directory entries).Holds settings.recursive place document found ∧
        found.IsDocument tree settings document := by
  match entries with
  | [] =>
    rw [Entry.documentsIn]
    simp [Entry.holds_nil]
  | (name, entry) :: entries =>
    have first := Entry.mem_documents entry (Path.join place name) document
    have others := Entry.mem_documentsIn entries place document
    rw [Entry.documentsIn, List.mem_append, first, others]
    simp only [Entry.holds_cons]
    constructor
    · rintro ((⟨rfl, itself⟩ | ⟨deep, found, held, isDocument⟩) | ⟨found, held, isDocument⟩)
      · exact ⟨entry, Or.inl (Or.inl ⟨rfl, rfl⟩), itself⟩
      · exact ⟨found, Or.inl (Or.inr ⟨deep, held⟩), isDocument⟩
      · exact ⟨found, Or.inr held, isDocument⟩
    · rintro ⟨found, (⟨rfl, rfl⟩ | ⟨deep, held⟩) | held, isDocument⟩
      · exact Or.inl (Or.inl ⟨rfl, isDocument⟩)
      · exact Or.inl (Or.inr ⟨deep, found, held, isDocument⟩)
      · exact Or.inr ⟨found, held, isDocument⟩

end

namespace FileTree

/-- A path is expanded to all that it stands for, unless it leads nowhere. -/
theorem expand_eq (tree : FileTree) (settings : FileSettings) (path : String) :
    (tree.Leads path ∧ ∃ found, tree.expand settings path = .ok found ∧
      ∀ document, document ∈ found ↔ tree.StandsFor settings path document) ∨
    ¬ tree.Leads path ∧ tree.expand settings path = .error (.missing path) := by
  have file : tree.isFile path = true ↔ ∃ bytes, tree.find path = .ok (.file bytes) := isFile_iff
  have directory : tree.isDirectory path = true ↔ ∃ entries, tree.find path = .ok (.directory entries) :=
    isDirectory_iff
  unfold expand Leads
  cases found : tree.find path with
  | error cause => exact Or.inr ⟨by simp [file, directory, found], rfl⟩
  | ok entry =>
    cases entry with
    | link target => exact Or.inr ⟨by simp [file, directory, found], rfl⟩
    | file bytes =>
      have itself : tree.isFile path = true := file.mpr ⟨bytes, found⟩
      refine Or.inl ⟨Or.inl itself, [path], rfl, fun document => ?_⟩
      rw [List.mem_singleton]
      constructor
      · rintro rfl
        exact .itself itself
      · rintro (_ | ⟨elsewhere, held, _⟩)
        · rfl
        · cases found.symm.trans elsewhere
          cases held
    | directory entries =>
      have leads : tree.isDirectory path = true := directory.mpr ⟨entries, found⟩
      refine Or.inl ⟨Or.inr leads, _, rfl, fun document => ?_⟩
      rw [Entry.mem_documentsIn]
      constructor
      · rintro ⟨below, held, isDocument⟩
        exact .inside found held isDocument
      · rintro (itself | ⟨elsewhere, held, isDocument⟩)
        · obtain ⟨bytes, other⟩ := file.mp itself
          cases found.symm.trans other
        · cases found.symm.trans elsewhere
          exact ⟨_, held, isDocument⟩

/-- The paths of a list are expanded in turn, up to the first that leads nowhere. -/
theorem mapM_expand (tree : FileTree) (settings : FileSettings) (paths : List String) :
    ((∀ path ∈ paths, tree.Leads path) ∧ ∃ found, paths.mapM (tree.expand settings) = .ok found ∧
      ∀ document, document ∈ found.flatten ↔ ∃ path ∈ paths, tree.StandsFor settings path document) ∨
    ∃ before path behind, paths = before ++ path :: behind ∧ (∀ earlier ∈ before, tree.Leads earlier) ∧
      ¬ tree.Leads path ∧ paths.mapM (tree.expand settings) = .error (.missing path) := by
  induction paths with
  | nil => exact Or.inl ⟨nofun, [], rfl, by simp⟩
  | cons first paths ih =>
    rw [List.mapM_cons]
    rcases expand_eq tree settings first with ⟨leads, found, expanded, stands⟩ | ⟨nowhere, expanded⟩
    · rw [expanded]
      rcases ih with ⟨others, rest, mapped, standing⟩ | ⟨before, path, behind, rfl, others, nowhere, mapped⟩
      · rw [mapped]
        refine Or.inl ⟨List.forall_mem_cons.mpr ⟨leads, others⟩, found :: rest, rfl, fun document => ?_⟩
        simp [stands, standing]
      · rw [mapped]
        have earlier := List.forall_mem_cons.mpr ⟨leads, others⟩
        exact Or.inr ⟨first :: before, path, behind, rfl, earlier, nowhere, rfl⟩
    · rw [expanded]
      exact Or.inr ⟨[], first, paths, rfl, nofun, nowhere, rfl⟩

end FileTree

end Walk

section Relisted

variable {tree other : FileTree} {settings : FileSettings}

theorem Entry.Relisted.eq_of_plain {first second : Entry} (relisted : first.Relisted second)
    (plain : ∀ entries, first ≠ .directory entries) : second = first := by
  have outline := relisted.outline_eq
  cases first with
  | file => exact outline_eq_file.mp outline.symm
  | link => exact outline_eq_link.mp outline.symm
  | directory entries => exact absurd rfl (plain entries)

/-- What is not a directory stands at the same path below an entry in every listing. -/
theorem Entry.Relisted.holds {recursive : Bool} {first second found : Entry} {place path : String}
    (relisted : first.Relisted second) (plain : ∀ entries, found ≠ .directory entries)
    (held : first.Holds recursive place path found) : second.Holds recursive place path found := by
  induction relisted generalizing place with
  | refl => exact held
  | trans _ _ one other => exact other (one held)
  | reorder _ perm =>
    cases held with
    | here member => exact .here (perm.mem_iff.mp member)
    | deeper deep member held => exact .deeper deep (perm.mem_iff.mp member) held
  | @inside before name old new behind relisted ih =>
    have member_of {entry : String × Entry} (member : entry ∈ before ++ (name, old) :: behind) :
        entry = (name, old) ∨ entry ∈ before ++ (name, new) :: behind := by
      simp only [List.mem_append, List.mem_cons] at member ⊢
      tauto
    have middle : (name, new) ∈ before ++ (name, new) :: behind := by simp
    cases held with
    | here member =>
      rcases member_of member with same | elsewhere
      · cases same
        exact .here (relisted.eq_of_plain plain ▸ middle)
      · exact .here elsewhere
    | deeper deep member held =>
      rcases member_of member with same | elsewhere
      · cases same
        exact .deeper deep middle (ih held)
      · exact .deeper deep elsewhere held

namespace FileTree

theorem Relisted.standsFor (relisted : Relisted tree other) {path document : String}
    (stands : tree.StandsFor settings path document) : other.StandsFor settings path document := by
  cases stands with
  | itself file => exact .itself (relisted.isFile file)
  | inside found held isDocument =>
    obtain ⟨twin, there, same⟩ := relisted.find_ok found
    refine .inside there (same.holds isDocument.plain held) ⟨isDocument.plain, ?_, isDocument.extension⟩
    intro target link
    rw [Bool.eq_false_iff]
    intro directory
    have leads := relisted.symm.isDirectory directory
    rw [isDocument.leaf target link] at leads
    cases leads

theorem Relisted.leads (relisted : Relisted tree other) {path : String} (leads : tree.Leads path) :
    other.Leads path :=
  leads.imp relisted.isFile relisted.isDirectory

end FileTree

end Relisted

/-- The documents that `paths` stand for, in increasing order, each in one spelling. -/
structure Collected (tree : FileTree) (settings : FileSettings) (paths documents : List String) : Prop where
  increasing : documents.Pairwise Path.Before
  distinct : (documents.map Path.parts).Nodup
  among : ∀ document ∈ documents, ∃ path ∈ paths, tree.StandsFor settings path document
  covers : ∀ path ∈ paths, ∀ document, tree.StandsFor settings path document →
    ∃ other ∈ documents, Path.parts other = Path.parts document

/-- What collecting the documents that `paths` stand for comes to. -/
structure CollectLaw (tree : FileTree) (settings : FileSettings) (paths : List String) : Prop where
  refused : (∃ cause, tree.collect settings paths = .error cause) ↔
    paths = [] ∨ ∃ path ∈ paths, tree.isFile path = false ∧ tree.isDirectory path = false
  cause : ∀ cause, tree.collect settings paths = .error cause → (paths = [] ∧ cause = .noInput) ∨
    ∃ before path behind, paths = before ++ path :: behind ∧ (∀ earlier ∈ before, tree.Leads earlier) ∧
      ¬ tree.Leads path ∧ cause = .missing path
  collected : ∀ documents, tree.collect settings paths = .ok documents →
    Collected tree settings paths documents
  settled : ∀ (other : FileTree) (others : List String), tree.Relisted other →
    (∀ path, path ∈ paths ↔ path ∈ others) →
    (tree.collect settings paths).toOption.map (·.map Path.parts) =
      (other.collect settings others).toOption.map (·.map Path.parts)

namespace FileTree

variable {tree : FileTree} {paths : List String}

/-- Each of the paths leads somewhere, and there is one. -/
def LeadAll (tree : FileTree) (paths : List String) : Prop := paths ≠ [] ∧ ∀ path ∈ paths, tree.Leads path

/-- The documents that the paths of a list stand for are gathered if each of them leads somewhere. -/
theorem collect_of_leadAll (settings : FileSettings) (leads : tree.LeadAll paths) : ∃ found documents,
    tree.collect settings paths = .ok documents ∧ Gathers found documents ∧
      ∀ document, document ∈ found ↔ ∃ path ∈ paths, tree.StandsFor settings path document := by
  rcases mapM_expand tree settings paths with ⟨_, found, mapped, standing⟩ |
    ⟨before, path, behind, rfl, _, nowhere, _⟩
  · refine ⟨found.flatten, _, ?_, gathers_foldl found.flatten, standing⟩
    have some : paths.isEmpty = false := by simpa using leads.1
    unfold collect
    rw [some, mapped]
    rfl
  · exact absurd (leads.2 path (by simp)) nowhere

/-- Otherwise the first path that leads nowhere is told, or that there is none at all. -/
theorem collect_of_not_leadAll (settings : FileSettings) (astray : ¬ tree.LeadAll paths) : ∃ cause,
    tree.collect settings paths = .error cause ∧ ((paths = [] ∧ cause = .noInput) ∨
      ∃ before path behind, paths = before ++ path :: behind ∧ (∀ earlier ∈ before, tree.Leads earlier) ∧
        ¬ tree.Leads path ∧ cause = .missing path) := by
  cases paths with
  | nil => exact ⟨.noInput, rfl, Or.inl ⟨rfl, rfl⟩⟩
  | cons first rest =>
    rcases mapM_expand tree settings (first :: rest) with ⟨all, _⟩ |
      ⟨before, path, behind, split, earlier, nowhere, mapped⟩
    · exact absurd ⟨by simp, all⟩ astray
    · refine ⟨.missing path, ?_, Or.inr ⟨before, path, behind, split, earlier, nowhere, rfl⟩⟩
      unfold collect
      rw [mapped]
      rfl

theorem not_leadAll_iff : ¬ tree.LeadAll paths ↔
    paths = [] ∨ ∃ path ∈ paths, tree.isFile path = false ∧ tree.isDirectory path = false := by
  simp only [LeadAll, Leads, not_and_or, not_not, not_forall, not_or, Bool.not_eq_true, exists_prop, ne_eq]

theorem Relisted.leadAll {other : FileTree} {others : List String} (relisted : Relisted tree other)
    (same : ∀ path, path ∈ paths ↔ path ∈ others) (leads : tree.LeadAll paths) : other.LeadAll others where
  left := by
    rintro rfl
    exact leads.1 (List.eq_nil_iff_forall_not_mem.mpr fun path member => nomatch (same path).mp member)
  right := fun path member => relisted.leads (leads.2 path ((same path).mpr member))

end FileTree

theorem Gathers.collected {tree : FileTree} {settings : FileSettings} {paths found documents : List String}
    (gathers : Gathers found documents)
    (standing : ∀ document, document ∈ found ↔ ∃ path ∈ paths, tree.StandsFor settings path document) :
    Collected tree settings paths documents where
  increasing := gathers.increasing
  distinct := gathers.pairwise_parts.nodup
  among := fun document member => (standing document).mp (gathers.among document member)
  covers := fun path given document stands =>
    gathers.covers document ((standing document).mpr ⟨path, given, stands⟩)

/-- Neither the order of the paths nor that of the listings makes a difference to what is collected. -/
theorem collect_documents (tree : FileTree) (settings : FileSettings) (paths : List String) :
    CollectLaw tree settings paths := by
  constructor
  case refused =>
    rw [← FileTree.not_leadAll_iff]
    constructor
    · rintro ⟨cause, refused⟩ leads
      obtain ⟨_, _, collected, _⟩ := FileTree.collect_of_leadAll settings leads
      cases refused.symm.trans collected
    · intro astray
      obtain ⟨cause, refused, _⟩ := FileTree.collect_of_not_leadAll settings astray
      exact ⟨cause, refused⟩
  case cause =>
    intro cause refused
    by_cases leads : tree.LeadAll paths
    · obtain ⟨_, _, collected, _⟩ := FileTree.collect_of_leadAll settings leads
      cases refused.symm.trans collected
    · obtain ⟨told, again, reason⟩ := FileTree.collect_of_not_leadAll settings leads
      cases refused.symm.trans again
      exact reason
  case collected =>
    intro documents collected
    by_cases leads : tree.LeadAll paths
    · obtain ⟨found, _, again, gathers, standing⟩ := FileTree.collect_of_leadAll settings leads
      cases collected.symm.trans again
      exact gathers.collected standing
    · obtain ⟨_, refused, _⟩ := FileTree.collect_of_not_leadAll settings leads
      cases collected.symm.trans refused
  case settled =>
    intro other others relisted same
    by_cases leads : tree.LeadAll paths
    · obtain ⟨found, documents, collected, gathers, standing⟩ := FileTree.collect_of_leadAll settings leads
      obtain ⟨found', documents', collected', gathers', standing'⟩ :=
        FileTree.collect_of_leadAll settings (relisted.leadAll same leads)
      have members (document : String) : document ∈ found ↔ document ∈ found' := by
        rw [standing, standing']
        constructor
        · rintro ⟨path, given, stands⟩
          exact ⟨path, (same path).mp given, relisted.standsFor stands⟩
        · rintro ⟨path, given, stands⟩
          exact ⟨path, (same path).mpr given, relisted.symm.standsFor stands⟩
      rw [collected, collected']
      exact congrArg some (gathers.map_parts_eq gathers' members)
    · have astray : ¬ other.LeadAll others :=
        fun leads' => leads (relisted.symm.leadAll (fun path => (same path).symm) leads')
      obtain ⟨_, refused, _⟩ := FileTree.collect_of_not_leadAll settings leads
      obtain ⟨_, refused', _⟩ := FileTree.collect_of_not_leadAll settings astray
      rw [refused, refused']
      rfl

end DataLexer
