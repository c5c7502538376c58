import Mathlib.Data.List.Forall2
import Mathlib.Data.List.TakeWhile
import DataLexer.Path

namespace DataLexer

namespace Path

/-- The name is a stem that is not empty, a dot and the ending, whatever the case of ASCII letters. -/
def EndsIn (name ending : List Char) : Prop :=
  ∃ stem suffix, stem ≠ [] ∧ name = stem ++ '.' :: suffix ∧ sameLetters suffix ending = true

/-- An ending as it is listed: with or without a dot before it. -/
def Spells (listed : String) (ending : List Char) : Prop :=
  listed.toList = ending ∨ listed.toList = '.' :: ending

/-- The list selects the paths whose file names end in one of the endings, and no other path with a file
name. -/
def Selects (listed : List String) (endings : List (List Char)) : Prop :=
  ∀ path name, fileName? path = some name →
    (hasExtension path listed = true ↔ ∃ ending ∈ endings, EndsIn name.toList ending)

/-- What a list of extensions selects. -/
structure ExtensionLaw (listed : List String) : Prop where
  selects : Selects listed ((listed.map bareExtension).filter fun ending => '.' ∉ ending)
  spelled : ∀ endings, List.Forall₂ Spells listed endings → (∀ ending ∈ endings, '.' ∉ ending) →
    Selects listed endings
  alone : ∀ written ending, listed = [written] → Spells written ending →
    (Selects listed [ending] ↔ '.' ∉ ending ∨ '/' ∈ ending)
  nameless : ∀ path, fileName? path = none → hasExtension path listed = false
  below : ∀ directory path, (fileName? path).isSome = true →
    hasExtension (directory ++ "/" ++ path) listed = hasExtension path listed
  slash : ∀ path, hasExtension (path ++ "/") listed = hasExtension path listed
  dot : ∀ path, hasExtension (path ++ "/.") listed = hasExtension path listed

theorem splitSlashes_eq_splitOn (text : List Char) : splitSlashes text = text.splitOn '/' := by
  induction text with
  | nil => rfl
  | cons c text ih =>
    rw [splitSlashes, List.splitOn_cons_eq_if_modifyHead, ih]
    cases split : text.splitOn '/' with
    | nil => exact absurd split (List.splitOn_ne_nil '/' text)
    | cons piece pieces => by_cases slash : c = '/' <;> simp [slash]

theorem slash_not_mem_of_mem_splitOn {text piece : List Char} (member : piece ∈ text.splitOn '/') :
    '/' ∉ piece := by
  induction text generalizing piece with
  | nil => simp_all
  | cons c text ih =>
    rw [List.splitOn_cons_eq_if_modifyHead] at member
    by_cases slash : c = '/'
    · rw [if_pos (by simpa using slash)] at member
      rcases List.mem_cons.mp member with rfl | later
      · simp
      · exact ih later
    · rw [if_neg (by simpa using slash)] at member
      cases split : text.splitOn '/' with
      | nil => exact absurd split (List.splitOn_ne_nil '/' text)
      | cons first pieces =>
        rw [split] at member ih
        rcases List.mem_cons.mp member with rfl | later
        · simpa [Ne.symm slash] using ih List.mem_cons_self
        · exact ih (List.mem_cons_of_mem first later)

theorem pieces_append_slash (before after : String) :
    pieces (before ++ "/" ++ after) = pieces before ++ pieces after := by
  have slash : ("/" : String).toList = ['/'] := by decide
  unfold pieces
  rw [String.toList_append, String.toList_append, slash, List.append_assoc, List.singleton_append,
    splitSlashes_eq_splitOn, List.splitOn_append_cons_self, List.map_append, splitSlashes_eq_splitOn,
    splitSlashes_eq_splitOn]

/-- The parts of a path that its pieces stand for. -/
def named (path : String) : List PathPart := (pieces path).filterMap PathPart.ofPiece?

theorem named_append_slash (before after : String) :
    named (before ++ "/" ++ after) = named before ++ named after := by
  rw [named, pieces_append_slash, List.filterMap_append, named, named]

/-- The root and the dot that a path starts at are no file names. -/
theorem fileName?_eq_some_iff {path name : String} :
    fileName? path = some name ↔ (named path).getLast? = some (.name name) := by
  obtain ⟨start, parts, other⟩ : ∃ start, parts path = start ++ named path ∧
      ∀ text, start.getLast? ≠ some (.name text) := by
    refine ⟨_, rfl, fun text => ?_⟩
    split
    · simp
    · split <;> simp
  unfold fileName?
  rw [parts, List.getLast?_append]
  cases last : (named path).getLast? with
  | none =>
    rw [Option.none_or]
    split
    next text found => exact absurd found (other text)
    next => simp
  | some part => cases part <;> simp

theorem fileName?_below (directory : String) {path name : String} (ends : fileName? path = some name) :
    fileName? (directory ++ "/" ++ path) = some name := by
  rw [fileName?_eq_some_iff] at ends ⊢
  rw [named_append_slash, List.getLast?_append, ends]
  rfl

/-- A slash and a dot at the end of a path count for nothing in its file name. -/
theorem fileName?_append_slash (path : String) {last : String} (nothing : named last = []) :
    fileName? (path ++ "/" ++ last) = fileName? path := by
  ext name
  rw [fileName?_eq_some_iff, fileName?_eq_some_iff, named_append_slash, nothing, List.append_nil]

theorem slash_not_mem_fileName {path name : String} (ends : fileName? path = some name) :
    '/' ∉ name.toList := by
  have member := List.mem_of_getLast? (fileName?_eq_some_iff.mp ends)
  obtain ⟨piece, inside, part⟩ := List.mem_filterMap.mp member
  obtain ⟨text, split, rfl⟩ := List.mem_map.mp inside
  rw [splitSlashes_eq_splitOn] at split
  have plain := slash_not_mem_of_mem_splitOn split
  have same : String.ofList text = name := by
    unfold PathPart.ofPiece? at part
    split at part
    · cases part
    split at part
    · cases part
    · cases part
      rfl
  rwa [← same, String.toList_ofList]

/-- A name without a slash is a path, and its own file name unless it is all dots. -/
theorem fileName?_of_plain {name : String} (plain : '/' ∉ name.toList) (text : name ≠ "")
    (here : name ≠ ".") (parent : name ≠ "..") : fileName? name = some name := by
  have whole : pieces name = [name] := by
    rw [pieces, splitSlashes_eq_splitOn, List.splitOn_eq_singleton plain, List.map_singleton,
      String.ofList_toList]
  rw [fileName?_eq_some_iff, named, whole]
  simp [PathPart.ofPiece?, text, here, parent]

theorem hasExtension_congr {path other : String} (same : fileName? path = fileName? other)
    (listed : List String) : hasExtension path listed = hasExtension other listed := by
  unfold hasExtension extension?
  rw [same]

/-- An extension is what stands behind the last dot of a name, if anything stands before that dot. -/
theorem nameExtension?_eq_some_iff {name extension : List Char} :
    nameExtension? name = some extension ↔
      ∃ stem, stem ≠ [] ∧ name = stem ++ '.' :: extension ∧ '.' ∉ extension := by
  constructor
  · intro found
    have whole := List.takeWhile_append_dropWhile (p := (· != '.')) (l := name.reverse)
    have stopped := List.head?_dropWhile_not (· != '.') name.reverse
    unfold nameExtension? at found
    dsimp only at found
    split at found
    · cases found
    · cases found
    · rename_i dot last stem dropped
      cases found
      rw [dropped] at whole stopped
      obtain rfl : dot = '.' := by simpa using stopped
      refine ⟨(last :: stem).reverse, by simp, ?_, ?_⟩
      · simpa using (congrArg List.reverse whole).symm
      · intro inside
        have kept := List.mem_takeWhile_imp (List.mem_reverse.mp inside)
        simp at kept
  · rintro ⟨stem, nonempty, rfl, plain⟩
    have kept : ∀ c ∈ extension.reverse, (c != '.') = true := by
      intro c inside
      simpa using ne_of_mem_of_not_mem (List.mem_reverse.mp inside) plain
    have reversed : (stem ++ '.' :: extension).reverse = extension.reverse ++ '.' :: stem.reverse := by
      simp
    obtain ⟨last, before, whole⟩ := List.exists_cons_of_ne_nil (List.reverse_ne_nil_iff.mpr nonempty)
    unfold nameExtension?
    dsimp only
    rw [reversed, List.dropWhile_append_of_pos kept, List.takeWhile_append_of_pos kept, whole]
    simp

/-- Signs below the letters stay as they are, and nothing else becomes one of them. -/
theorem toLower_eq_iff {c mark : Char} (sign : mark.toNat < 65) : c.toLower = mark ↔ c = mark := by
  unfold Char.toLower
  split
  next upper =>
    have least : 65 ≤ c.val.toNat := UInt32.le_iff_toNat_le.mp upper.1
    have most : c.val.toNat ≤ 90 := UInt32.le_iff_toNat_le.mp upper.2
    have width : ('a'.val - 'A'.val).toNat = 32 := by decide
    have lower : (c.val + ('a'.val - 'A'.val)).toNat = c.val.toNat + 32 := by
      rw [UInt32.toNat_add, width]
      omega
    have small : mark.val.toNat < 65 := sign
    constructor
    · rintro rfl
      dsimp only at small
      omega
    · rintro rfl
      omega
  next => exact Iff.rfl

theorem mem_iff_of_sameLetters {first second : List Char} (same : sameLetters first second = true)
    {mark : Char} (sign : mark.toNat < 65) : mark ∈ first ↔ mark ∈ second := by
  have folded (text : List Char) : mark ∈ text ↔ mark ∈ text.map Char.toLower := by
    simp [toLower_eq_iff sign]
  rw [folded first, folded second, of_decide_eq_true same]

theorem sameLetters_comm {first second : List Char} (same : sameLetters first second = true) :
    sameLetters second first = true :=
  decide_eq_true (of_decide_eq_true same).symm

/-- The dots before a listed extension are all that sets it apart from its ending. -/
theorem exists_bareExtension {listed : String} {ending : List Char} (spells : Spells listed ending) :
    ∃ dots, ending = List.replicate dots '.' ++ bareExtension listed := by
  have strip (text : List Char) : ∃ dots, text = List.replicate dots '.' ++ text.dropWhile (· = '.') := by
    have all : ∀ c ∈ text.takeWhile (· = '.'), c = '.' := by
      intro c inside
      simpa using List.mem_takeWhile_imp inside
    refine ⟨(text.takeWhile (· = '.')).length, ?_⟩
    rw [← List.eq_replicate_iff.mpr ⟨rfl, all⟩]
    exact List.takeWhile_append_dropWhile.symm
  unfold bareExtension
  rcases spells with same | same
  · rw [same]
    exact strip ending
  · rw [same, List.dropWhile_cons_of_pos (by decide)]
    exact strip ending

theorem bareExtension_of_spells {listed : String} {ending : List Char} (spells : Spells listed ending)
    (plain : '.' ∉ ending) : bareExtension listed = ending := by
  obtain ⟨dots, same⟩ := exists_bareExtension spells
  cases dots with
  | zero => simpa using same.symm
  | succ dots =>
    rw [same] at plain
    simp [List.replicate_succ] at plain

/-- No file name ends in an extension with a slash. -/
theorem not_endsIn_of_slash {path name : String} (ends : fileName? path = some name) {ending : List Char}
    (slash : '/' ∈ ending) : ¬ EndsIn name.toList ending := by
  rintro ⟨stem, suffix, _, split, same⟩
  apply slash_not_mem_fileName ends
  rw [split]
  have inside := (mem_iff_of_sameLetters same (by decide)).mpr slash
  simp [inside]

theorem hasExtension_iff {path name : String} (ends : fileName? path = some name)
    {listed : List String} : hasExtension path listed = true ↔
      ∃ written ∈ listed, '.' ∉ bareExtension written ∧ EndsIn name.toList (bareExtension written) := by
  have found : hasExtension path listed = true ↔ ∃ extension,
      nameExtension? name.toList = some extension ∧
        ∃ written ∈ listed, sameLetters (bareExtension written) extension = true := by
    unfold hasExtension extension?
    rw [ends]
    cases known : nameExtension? name.toList <;> simp [known]
  rw [found]
  constructor
  · rintro ⟨extension, known, written, member, same⟩
    obtain ⟨stem, nonempty, whole, plain⟩ := nameExtension?_eq_some_iff.mp known
    refine ⟨written, member, ?_, stem, extension, nonempty, whole, sameLetters_comm same⟩
    rwa [mem_iff_of_sameLetters same (by decide)]
  · rintro ⟨written, member, plain, stem, suffix, nonempty, whole, same⟩
    rw [← mem_iff_of_sameLetters same (by decide)] at plain
    have known := nameExtension?_eq_some_iff.mpr ⟨stem, nonempty, whole, plain⟩
    exact ⟨suffix, known, written, member, sameLetters_comm same⟩

/-- Taken without the dots before them, the listed extensions without a dot inside are what is
selected. -/
theorem selects_bareExtension (listed : List String) :
    Selects listed ((listed.map bareExtension).filter fun ending => '.' ∉ ending) := by
  intro path name ends
  rw [hasExtension_iff ends]
  simp [and_assoc]

theorem selects_of_spells {listed : List String} {endings : List (List Char)}
    (spells : List.Forall₂ Spells listed endings) (plain : ∀ ending ∈ endings, '.' ∉ ending) :
    Selects listed endings := by
  have bare : listed.map bareExtension = endings := by
    induction spells with
    | nil => rfl
    | cons first _ ih =>
      obtain ⟨here, later⟩ := List.forall_mem_cons.mp plain
      rw [List.map_cons, bareExtension_of_spells first here, ih later]
  have all : endings.filter (fun ending => '.' ∉ ending) = endings :=
    List.filter_eq_self.mpr fun ending member => decide_eq_true (plain ending member)
  have selects := selects_bareExtension listed
  rwa [bare, all] at selects

section Alone

variable {written : String} {ending : List Char}

theorem fileName?_dotted (plain : '/' ∉ ending) :
    fileName? (String.ofList ('a' :: '.' :: ending)) = some (String.ofList ('a' :: '.' :: ending)) := by
  have apart {text : List Char} (short : text.take 2 ≠ ['a', '.']) :
      String.ofList ('a' :: '.' :: ending) ≠ String.ofList text := by
    intro same
    rw [← String.ofList_inj.mp same] at short
    exact short rfl
  exact fileName?_of_plain (by simpa using plain) (apart (by decide)) (apart (by decide)) (apart (by decide))

theorem endsIn_dotted (ending : List Char) : EndsIn ('a' :: '.' :: ending) ending :=
  ⟨['a'], ending, by simp, rfl, decide_eq_true rfl⟩

/-- An extension with a dot and no slash does not select the files that end in it: none at all when a dot
stands inside, and too many when the dots before it are more than one. -/
theorem not_selects_of_dot (spells : Spells written ending) (dot : '.' ∈ ending) (plain : '/' ∉ ending) :
    ¬ Selects [written] [ending] := by
  intro selects
  obtain ⟨dots, same⟩ := exists_bareExtension spells
  by_cases inner : '.' ∈ bareExtension written
  · have ends := fileName?_dotted plain
    have selected := (selects _ _ ends).mpr ⟨ending, List.mem_singleton_self ending, by
      simpa using endsIn_dotted ending⟩
    obtain ⟨other, member, bare, _⟩ := (hasExtension_iff ends).mp selected
    rw [List.mem_singleton.mp member] at bare
    exact bare inner
  · have bare : '/' ∉ bareExtension written := by
      intro slash
      rw [same] at plain
      exact plain (List.mem_append_right _ slash)
    have ends := fileName?_dotted bare
    have selected := (hasExtension_iff ends).mpr ⟨written, List.mem_singleton_self written, inner, by
      simpa using endsIn_dotted (bareExtension written)⟩
    obtain ⟨other, member, stem, suffix, nonempty, whole, letters⟩ := (selects _ _ ends).mp selected
    rw [List.mem_singleton.mp member] at letters
    -- the ending is longer than what stands behind the first letter of the name and its dot
    have positive : 0 < dots := by
      by_contra none
      obtain rfl : dots = 0 := by omega
      exact inner (by simpa [same] using dot)
    have width := congrArg List.length (of_decide_eq_true letters)
    have stemmed := List.length_pos_iff.mpr nonempty
    have total := congrArg List.length whole
    have longer := congrArg List.length same
    simp only [List.length_map, List.length_append, List.length_cons, List.length_replicate,
      String.toList_ofList] at width total longer
    omega

/-- An extension that is listed alone selects what it says unless a dot is in it. -/
theorem selects_singleton_iff (spells : Spells written ending) :
    Selects [written] [ending] ↔ '.' ∉ ending ∨ '/' ∈ ending := by
  constructor
  · intro selects
    by_contra neither
    obtain ⟨dot, plain⟩ := not_or.mp neither
    exact not_selects_of_dot spells (not_not.mp dot) plain selects
  · rintro (plain | slash)
    · exact selects_of_spells (.cons spells .nil) (by simpa using plain)
    · intro path name ends
      have inside : '/' ∈ bareExtension written := by
        obtain ⟨dots, same⟩ := exists_bareExtension spells
        rw [same] at slash
        simpa [List.mem_replicate] using slash
      rw [hasExtension_iff ends]
      simp [not_endsIn_of_slash ends slash, not_endsIn_of_slash ends inside]

end Alone

/-- Extensions without a dot inside select the files whose names end in them, wherever these are. -/
theorem hasExtension_law (listed : List String) : ExtensionLaw listed where
  selects := selects_bareExtension listed
  spelled := fun _ spells plain => selects_of_spells spells plain
  alone := by
    rintro written ending rfl spells
    exact selects_singleton_iff spells
  nameless := by
    intro path none
    unfold hasExtension extension?
    rw [none]
    rfl
  below := by
    intro directory path ends
    obtain ⟨name, known⟩ := Option.isSome_iff_exists.mp ends
    refine hasExtension_congr ?_ listed
    rw [fileName?_below directory known, known]
  slash := by
    intro path
    refine hasExtension_congr ?_ listed
    have nothing : named "" = [] := by decide
    have same := fileName?_append_slash path nothing
    rwa [String.append_empty] at same
  dot := by
    intro path
    have nothing : named "." = [] := by decide
    have same := fileName?_append_slash path nothing
    have whole : path ++ "/." = path ++ "/" ++ "." := by
      rw [String.append_assoc]
      rfl
    rw [whole]
    exact hasExtension_congr same listed

/-- A file whose name ends in a listed extension is left out when the extension has a dot inside. -/
theorem dotted_extension_left_out :
    Spells "conf.dan" "conf.dan".toList ∧ fileName? "app.conf.dan" = some "app.conf.dan" ∧
      EndsIn "app.conf.dan".toList "conf.dan".toList ∧
      hasExtension "app.conf.dan" ["conf.dan"] = false := by
  refine ⟨Or.inl rfl, by decide, ⟨"app".toList, "conf.dan".toList, ?_, ?_, ?_⟩, by decide⟩ <;> decide

end Path

end DataLexer
