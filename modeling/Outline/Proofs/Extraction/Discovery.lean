import Outline.Extraction
import Outline.Proofs.Extraction.Accounting
import Outline.Proofs.FileSystem.Listing
import Outline.Proofs.FileSystem.Paths
import Outline.Proofs.Text.Basic

/-!
The files that are found.
-/

set_option autoImplicit false

/-! ## The source files that are found below a directory

In a proper file system every path that is found is a normal one continued by the name of a source
file, so that outlining a found file is outlining the very path that was found. What is found
depends on names and links, not on the content of files.
-/

namespace Outline

namespace Extraction

/-! ### Found paths -/

/-- A path is that of an entry with the name of a source file in a directory with a normal path. -/
def IsSourcePath (options : Options) (path : Text) : Prop :=
  ∃ folder name, Path.IsNormal folder ∧ Path.isName name = true ∧ isSource options name = true ∧
    path = Path.join folder name

theorem IsSourcePath.isNormal {options : Options} {path : Text}
    (source : IsSourcePath options path) :
    Path.IsNormal path := by
  obtain ⟨folder, name, normal, named, -, rfl⟩ := source
  exact normal.join named

mutual

private theorem isSourcePath_of_mem_sourcesIn {fs : FileSystem} {options : Options} {path : Text}
    (normal : Path.IsNormal path) : (entries : List (Text × Entry)) →
    Entry.areProper entries = true → ∀ found ∈ sourcesIn fs options path entries,
      IsSourcePath options found
  | [], _ => fun _ member => by
    rw [sourcesIn] at member
    exact absurd member List.not_mem_nil
  | (name, entry) :: entries, proper => fun found member => by
    rw [Entry.areProper, Bool.and_eq_true, Bool.and_eq_true] at proper
    rw [sourcesIn, List.mem_append] at member
    rcases member with here | later
    · exact isSourcePath_of_mem_sourcesAt normal proper.1 entry proper.2.1 found here
    · exact isSourcePath_of_mem_sourcesIn normal entries proper.2.2 found later

private theorem isSourcePath_of_mem_sourcesAt {fs : FileSystem} {options : Options}
    {folder name : Text}
    (normal : Path.IsNormal folder) (named : Path.isName name = true) : (entry : Entry) →
    entry.isProper = true → ∀ found ∈ sourcesAt fs options (Path.join folder name) name entry,
      IsSourcePath options found
  | .file _, _ => fun found member => by
    rw [sourcesAt] at member
    split_ifs at member with source
    · exact ⟨folder, name, normal, named, source, List.mem_singleton.mp member⟩
    · exact absurd member List.not_mem_nil
  | .link _, _ => fun found member => by
    rw [sourcesAt] at member
    split_ifs at member with source
    · rw [Bool.and_eq_true] at source
      exact ⟨folder, name, normal, named, source.1, List.mem_singleton.mp member⟩
    · exact absurd member List.not_mem_nil
  | .directory entries, proper => fun found member => by
    rw [Entry.isProper] at proper
    rw [sourcesAt] at member
    split_ifs at member
    · exact isSourcePath_of_mem_sourcesIn (normal.join named) entries proper found member
    · exact absurd member List.not_mem_nil

end

variable {fs : FileSystem} (options : Options)

theorem isSourcePath_of_mem_sources (proper : fs.isProper = true) {directory found : Text}
    (member : found ∈ sources fs options directory) : IsSourcePath options found := by
  rw [sources] at member
  split at member
  · next entries there =>
    have inside := FileSystem.isProper_of_entry proper there
    rw [Entry.isProper] at inside
    have listed := (Sorting.sort_perm Text.le _).mem_iff.mp member
    exact isSourcePath_of_mem_sourcesIn (FileSystem.isNormal_absolute proper directory)
      entries inside found listed
  · exact absurd member List.not_mem_nil

theorem sources_absolute (proper : fs.isProper = true) (directory : Text) :
    sources fs options (fs.absolute directory) = sources fs options directory := by
  rw [sources, FileSystem.absolute_absolute proper, ← sources]

/-! ### Content does not matter -/

mutual

private theorem sourcesIn_shapes {later : FileSystem}
    (agree : ∀ path, later.isDirectory path = fs.isDirectory path) (path : Text) :
    (entries : List (Text × Entry)) →
    sourcesIn later options path (Entry.shapes entries) = sourcesIn fs options path entries
  | [] => by rw [Entry.shapes, sourcesIn, sourcesIn]
  | (name, entry) :: entries => by
    rw [Entry.shapes, sourcesIn, sourcesIn, sourcesAt_shape agree (Path.join path name) name entry,
      sourcesIn_shapes agree path entries]

private theorem sourcesAt_shape {later : FileSystem}
    (agree : ∀ path, later.isDirectory path = fs.isDirectory path) (path name : Text) :
    (entry : Entry) →
    sourcesAt later options path name entry.shape = sourcesAt fs options path name entry
  | .file _ => by rw [Entry.shape, sourcesAt, sourcesAt]
  | .link _ => by rw [Entry.shape, sourcesAt, sourcesAt, agree]
  | .directory entries => by
    rw [Entry.shape, sourcesAt, sourcesAt, sourcesIn_shapes agree path entries]

end

private theorem sources_of_entry {directory : Text} {entries : List (Text × Entry)}
    (found : fs.entry (fs.absolute directory) = .ok (.directory entries)) :
    sources fs options directory =
      Text.sort (sourcesIn fs options (fs.absolute directory) entries) := by
  rw [sources, found]

private theorem sources_of_not_isDirectory {directory : Text}
    (none : fs.isDirectory (fs.absolute directory) = false) :
      sources fs options directory = [] := by
  rw [FileSystem.isDirectory] at none
  rw [sources]
  split
  · next found => simp [found] at none
  · rfl

private theorem exists_entries {path : Text} (there : fs.isDirectory path = true) :
    ∃ entries, fs.entry path = .ok (.directory entries) := by
  obtain ⟨place, entries, reached⟩ := FileSystem.isDirectory_iff.mp there
  exact ⟨entries, FileSystem.entry_eq_ok_iff.mpr ⟨place, reached⟩⟩

theorem sources_rewrite {later : FileSystem} {path : Text} {old new : Bytes}
    (before : fs.read path = .ok old) (written : fs.write path new = .ok later) (directory : Text) :
    sources later options directory = sources fs options directory := by
  have agree := fun other => (FileSystem.kind_rewrite before written other).1
  have same := FileSystem.absolute_rewrite before written directory
  cases there : fs.isDirectory (fs.absolute directory) with
  | false =>
    rw [sources_of_not_isDirectory options there, sources_of_not_isDirectory options]
    rw [same, agree, there]
  | true =>
    obtain ⟨entries, found⟩ := exists_entries there
    obtain ⟨now, foundNow, shapes⟩ := FileSystem.entry_rewrite before written found
    rw [← same] at foundNow
    rw [sources_of_entry options found, sources_of_entry options foundNow, same,
      ← sourcesIn_shapes options (fun _ => rfl) _ now, shapes, sourcesIn_shapes options agree]

/-! ### Discovery -/

private theorem result_checkPath {path : Text} (sound : FileSystem.pathFault? path = none) :
    (checkPath path).result = .ok () := by
  rw [checkPath, sound]
  rfl

private theorem result_discover_eq (directory : Text) : (discover fs options directory).result =
    (checkPath (fs.absolute directory)).result.map fun _ => sources fs options directory := by
  simp only [discover, Logged.result_bind, result_note, Logged.result_pure, Except.bind]
  cases (checkPath (fs.absolute directory)).result <;> rfl

private theorem eq_sources_of_discover {directory : Text} {found : List Text}
    (searched : (discover fs options directory).result = .ok found) :
    found = sources fs options directory := by
  rw [result_discover_eq] at searched
  cases checked : (checkPath (fs.absolute directory)).result with
  | error failure => exact absurd searched (by simp [checked, Except.map])
  | ok passed =>
    rw [checked] at searched
    exact (Except.ok.inj searched).symm

theorem result_discover {directory : Text} (there : fs.isDirectory (fs.absolute directory) = true) :
    (discover fs options directory).result = .ok (sources fs options directory) := by
  have sound : FileSystem.pathFault? (fs.absolute directory) = none := by
    obtain ⟨place, entries, reached⟩ := FileSystem.isDirectory_iff.mp there
    rw [FileSystem.resolve] at reached
    split at reached
    · exact absurd reached (by simp)
    · assumption
  rw [result_discover_eq, result_checkPath sound]
  rfl

end Extraction

end Outline

/-! ## What a search finds

The source files below a directory are those that names lead to, no link being followed on the way
and no hidden or excluded directory being entered; the name of the directory itself does not matter.
A search finds exactly these, each once and in the order of their paths. So the order in which
directories list their entries does not matter either.
-/

namespace Outline

namespace Path

private theorem ofNames_injective {slashes : Nat} {first second : List Text}
    (properFirst : ∀ name ∈ first, isName name = true)
    (properSecond : ∀ name ∈ second, isName name = true) (someFirst : first ≠ [])
    (someSecond : second ≠ []) (same : ofNames slashes first = ofNames slashes second) :
    first = second := by
  have both := congrArg components same
  rw [components_ofNames properFirst, components_ofNames properSecond, if_neg someFirst,
    if_neg someSecond] at both
  exact List.append_cancel_left both

private theorem foldl_join_ofNames {slashes : Nat} (some : slashes ≠ 0) {names steps : List Text}
    (proper : ∀ name ∈ names, isName name = true) (properSteps : ∀ step ∈ steps,
      isName step = true) :
    steps.foldl join (ofNames slashes names) = ofNames slashes (names ++ steps) := by
  induction steps generalizing names with
  | nil => rw [List.foldl_nil, List.append_nil]
  | cons step steps ih =>
    obtain ⟨here, later⟩ := List.forall_mem_cons.mp properSteps
    have longer : ∀ name ∈ names ++ [step], isName name = true := by
      intro name member
      rcases List.mem_append.mp member with old | new
      · exact proper name old
      · exact List.mem_singleton.mp new ▸ here
    rw [List.foldl_cons, join_ofNames proper some here, ih longer later, List.append_assoc,
      List.singleton_append]

end Path

private theorem Entry.isName_of_at? {top entry : Entry} (proper : top.isProper = true)
    {names : List Text}
    (found : top.at? names = some entry) : ∀ name ∈ names, Path.isName name = true := by
  induction names generalizing top with
  | nil => simp
  | cons name names ih =>
    obtain ⟨entries, below, rfl, there, further⟩ := exists_of_at?_cons found
    rw [isProper, areProper_iff] at proper
    obtain ⟨here, inside⟩ := proper _ (mem_of_lookup? there)
    exact List.forall_mem_cons.mpr ⟨here, ih inside further⟩

namespace Extraction

/-- Whether an entry at a path is a directory, a link being followed. -/
def isFolder (fs : FileSystem) (path : Text) : Entry → Bool
  | .file _ => false
  | .link _ => fs.isDirectory path
  | .directory _ => true

/-- A path is that of a source file below a directory: names lead to an entry that is no directory,
the last name has the extension of a source file, and the others are those of directories that are
not hidden, not excluded and no links. -/
def IsSourceBelow (fs : FileSystem) (options : Options) (path : Text) (top : Entry) (found : Text) :
    Prop :=
  ∃ (folders : List Text) (name : Text) (entry : Entry),
    found = (folders ++ [name]).foldl Path.join path ∧
    top.at? (folders ++ [name]) = some entry ∧ isFolder fs found entry = false ∧
    Path.nameExtension name ∈ options.extensions ∧
    ∀ folder ∈ folders, folder.head? ≠ some Path.dot ∧ folder ∉ options.excludedDirectories

variable {fs : FileSystem} {options : Options}

/-! ### Membership -/

private theorem isSource_iff {name : Text} :
    isSource options name = true ↔ Path.nameExtension name ∈ options.extensions := by
  rw [isSource, List.contains_iff_mem]

private theorem isEntered_iff {name : Text} : isEntered options name = true ↔
    name.head? ≠ some Path.dot ∧ name ∉ options.excludedDirectories := by
  simp [isEntered]

private theorem sourcesIn_eq_flatMap (path : Text) (entries : List (Text × Entry)) :
    sourcesIn fs options path entries = entries.flatMap fun pair =>
      sourcesAt fs options (Path.join path pair.1) pair.1 pair.2 := by
  induction entries with
  | nil => rw [sourcesIn, List.flatMap_nil]
  | cons pair entries ih => rw [sourcesIn, ih, List.flatMap_cons]

private theorem mem_sourcesAt_iff {path name found : Text} {entry : Entry} :
    found ∈ sourcesAt fs options path name entry ↔
      (found = path ∧ isSource options name = true ∧ isFolder fs path entry = false) ∨
      ∃ entries, entry = .directory entries ∧ isEntered options name = true ∧
        found ∈ sourcesIn fs options path entries := by
  cases entry with
  | file content =>
    rw [sourcesAt]
    split_ifs with source <;> simp [source, isFolder]
  | link target =>
    rw [sourcesAt]
    split_ifs with source
    · rw [Bool.and_eq_true, Bool.not_eq_true'] at source
      simp [source, isFolder]
    · rw [Bool.and_eq_true, Bool.not_eq_true'] at source
      simpa [isFolder] using fun _ => not_and.mp source
  | directory entries =>
    rw [sourcesAt]
    split_ifs with entered <;> simp [entered, isFolder]

private theorem isSourceBelow_of_mem {top : Entry} (unique : top.hasUniqueNames = true)
    {entries : List (Text × Entry)} (whole : top = .directory entries) {path found : Text}
    (member : found ∈ sourcesIn fs options path entries) :
    IsSourceBelow fs options path top found := by
  induction top using Entry.induction_on generalizing entries path with
  | file content => exact absurd whole (by simp)
  | link target => exact absurd whole (by simp)
  | directory items ih =>
    obtain rfl := Entry.directory.inj whole
    obtain ⟨once, below⟩ := Entry.hasUniqueNames_directory_iff.mp unique
    rw [sourcesIn_eq_flatMap] at member
    obtain ⟨pair, listed, here⟩ := List.mem_flatMap.mp member
    have there := (Entry.lookup?_eq_some_iff once).mpr listed
    rcases mem_sourcesAt_iff.mp here with ⟨rfl, source, noFolder⟩ |
      ⟨deeper, inside, entered, further⟩
    · refine ⟨[], pair.1, pair.2, rfl, ?_, noFolder, isSource_iff.mp source, by simp⟩
      rw [List.nil_append, Entry.at?_directory_cons, there, Option.bind_some, Entry.at?_nil]
    · obtain ⟨folders, name, entry, rfl, reached, rest⟩ :=
        ih pair listed (below pair listed) inside further
      refine ⟨pair.1 :: folders, name, entry, rfl, ?_, rest.1, rest.2.1, ?_⟩
      · rw [List.cons_append, Entry.at?_directory_cons, there, Option.bind_some, reached]
      · exact List.forall_mem_cons.mpr ⟨isEntered_iff.mp entered, rest.2.2⟩

private theorem mem_of_isSourceBelow {entries : List (Text × Entry)}
    (unique : (Entry.directory entries).hasUniqueNames = true) {path found : Text}
    (below : IsSourceBelow fs options path (.directory entries) found) :
    found ∈ sourcesIn fs options path entries := by
  obtain ⟨folders, name, entry, rfl, reached, noFolder, source, open_⟩ := below
  induction folders generalizing entries path with
  | nil =>
    obtain ⟨once, -⟩ := Entry.hasUniqueNames_directory_iff.mp unique
    rw [List.nil_append, Entry.at?_directory_cons] at reached
    obtain ⟨found, there, same⟩ := Option.bind_eq_some_iff.mp reached
    obtain rfl := Option.some.inj ((Entry.at?_nil found).symm.trans same)
    rw [sourcesIn_eq_flatMap]
    refine List.mem_flatMap.mpr ⟨_, (Entry.lookup?_eq_some_iff once).mp there, ?_⟩
    exact mem_sourcesAt_iff.mpr (.inl ⟨rfl, isSource_iff.mpr source, noFolder⟩)
  | cons folder folders ih =>
    obtain ⟨once, inside⟩ := Entry.hasUniqueNames_directory_iff.mp unique
    obtain ⟨entered, others⟩ := List.forall_mem_cons.mp open_
    rw [List.cons_append, Entry.at?_directory_cons] at reached
    obtain ⟨next, there, further⟩ := Option.bind_eq_some_iff.mp reached
    have listed := (Entry.lookup?_eq_some_iff once).mp there
    obtain ⟨items, rfl⟩ : ∃ items, next = .directory items := by
      have notEmpty : folders ++ [name] ≠ [] := by simp
      obtain ⟨first, rest, cons⟩ := List.exists_cons_of_ne_nil notEmpty
      rw [cons] at further
      obtain ⟨items, _, same, -⟩ := Entry.exists_of_at?_cons further
      exact ⟨items, same⟩
    rw [sourcesIn_eq_flatMap]
    refine List.mem_flatMap.mpr ⟨_, listed, mem_sourcesAt_iff.mpr (.inr ⟨items, rfl, ?_, ?_⟩)⟩
    · exact isEntered_iff.mpr entered
    · exact ih (inside _ listed) further noFolder others

/-- A search of a directory finds the source files below it. -/
theorem mem_sourcesIn_iff {entries : List (Text × Entry)}
    (unique : (Entry.directory entries).hasUniqueNames = true) {path found : Text} :
    found ∈ sourcesIn fs options path entries ↔
      IsSourceBelow fs options path (.directory entries) found :=
  ⟨isSourceBelow_of_mem unique rfl, mem_of_isSourceBelow unique⟩

/-! ### Each once -/

private theorem exists_names_of_mem {slashes : Nat} (some : slashes ≠ 0) {names : List Text}
    (properNames : ∀ name ∈ names, Path.isName name = true) {name found : Text} {entry : Entry}
    (proper : entry.isProper = true) (unique : entry.hasUniqueNames = true)
    (member : found ∈ sourcesAt fs options (Path.ofNames slashes names) name entry) :
    ∃ more, (∀ step ∈ more, Path.isName step = true) ∧
      found = Path.ofNames slashes (names ++ more) := by
  rcases mem_sourcesAt_iff.mp member with ⟨rfl, -⟩ | ⟨entries, rfl, -, inside⟩
  · exact ⟨[], by simp, by rw [List.append_nil]⟩
  · obtain ⟨folders, last, below, rfl, reached, -⟩ := (mem_sourcesIn_iff unique).mp inside
    have properSteps := Entry.isName_of_at? proper reached
    exact ⟨_, properSteps, Path.foldl_join_ofNames some properNames properSteps⟩

private theorem nodup_sourcesIn {slashes : Nat} (some : slashes ≠ 0) {top : Entry}
    (proper : top.isProper = true) (unique : top.hasUniqueNames = true)
    {entries : List (Text × Entry)} (whole : top = .directory entries) {names : List Text}
    (properNames : ∀ name ∈ names, Path.isName name = true) :
    (sourcesIn fs options (Path.ofNames slashes names) entries).Nodup := by
  induction top using Entry.induction_on generalizing entries names with
  | file content => exact absurd whole (by simp)
  | link target => exact absurd whole (by simp)
  | directory items ih =>
    obtain rfl := Entry.directory.inj whole
    rw [Entry.isProper, Entry.areProper_iff] at proper
    obtain ⟨once, below⟩ := Entry.hasUniqueNames_directory_iff.mp unique
    have longer : ∀ pair ∈ items, ∀ name ∈ names ++ [pair.1], Path.isName name = true := by
      intro pair listed name member
      rcases List.mem_append.mp member with old | new
      · exact properNames name old
      · exact List.mem_singleton.mp new ▸ (proper pair listed).1
    have joined : ∀ pair ∈ items, Path.join (Path.ofNames slashes names) pair.1 =
        Path.ofNames slashes (names ++ [pair.1]) :=
      fun pair listed => Path.join_ofNames properNames some (proper pair listed).1
    rw [sourcesIn_eq_flatMap, List.nodup_flatMap]
    constructor
    · intro pair listed
      rw [joined pair listed]
      cases inside : pair.2 with
      | file content => rw [sourcesAt]; split_ifs <;> simp
      | link target => rw [sourcesAt]; split_ifs <;> simp
      | directory deeper =>
        rw [sourcesAt]
        split_ifs
        · exact ih pair listed (proper pair listed).2 (below pair listed) inside
            (longer pair listed)
        · exact List.nodup_nil
    · have different : items.Pairwise fun a b => a.1 ≠ b.1 := List.pairwise_map.mp once
      refine different.imp_of_mem fun {a b} memberA memberB apart found first second => ?_
      dsimp only at first second
      rw [joined a memberA] at first
      rw [joined b memberB] at second
      obtain ⟨moreA, properA, pathA⟩ := exists_names_of_mem some (longer a memberA)
        (proper a memberA).2 (below a memberA) first
      obtain ⟨moreB, properB, pathB⟩ := exists_names_of_mem some (longer b memberB)
        (proper b memberB).2 (below b memberB) second
      have same := Path.ofNames_injective (List.forall_mem_append.mpr ⟨longer a memberA, properA⟩)
        (List.forall_mem_append.mpr ⟨longer b memberB, properB⟩) (by simp) (by simp)
        (pathA.symm.trans pathB)
      rw [List.append_assoc, List.append_assoc] at same
      exact apart (List.cons.inj (List.append_cancel_left same)).1

/-! ### Any order -/

private theorem isFolder_relisted {other : FileSystem} (relisted : fs.Relisted other)
    (unique : fs.root.hasUniqueNames = true) {old new : Entry} (same : Entry.Relisted old new)
    (path : Text) : isFolder other path new = isFolder fs path old := by
  cases same with
  | file content => rfl
  | link target => exact relisted.isDirectory unique path
  | directory listed new each perm => rfl

private theorem isSourceBelow_relisted {other : FileSystem} (relisted : fs.Relisted other)
    (unique : fs.root.hasUniqueNames = true) {old new : Entry} (same : Entry.Relisted old new)
    (uniqueOld : old.hasUniqueNames = true) (path found : Text) :
    IsSourceBelow other options path new found ↔ IsSourceBelow fs options path old found := by
  constructor
  · rintro ⟨folders, name, entry, rfl, reached, noFolder, rest⟩
    have both := same.at? uniqueOld (folders ++ [name])
    rw [reached] at both
    generalize there : old.at? (folders ++ [name]) = before at both
    cases both with
    | some alike =>
      rw [isFolder_relisted relisted unique alike] at noFolder
      exact ⟨folders, name, _, rfl, there, noFolder, rest⟩
  · rintro ⟨folders, name, entry, rfl, reached, noFolder, rest⟩
    have both := same.at? uniqueOld (folders ++ [name])
    rw [reached] at both
    generalize there : new.at? (folders ++ [name]) = after at both
    cases both with
    | some alike =>
      rw [← isFolder_relisted relisted unique alike] at noFolder
      exact ⟨folders, name, _, rfl, there, noFolder, rest⟩

section

variable (options) (unique : fs.root.hasUniqueNames = true) {directory : Text}
  {entries : List (Text × Entry)}
  (there : fs.entry (fs.absolute directory) = .ok (.directory entries))

include unique there

private theorem mem_sources_iff (found : Text) : found ∈ sources fs options directory ↔
    IsSourceBelow fs options (fs.absolute directory) (.directory entries) found := by
  have uniqueHere := FileSystem.hasUniqueNames_of_entry unique there
  rw [sources_of_entry options there, Text.sort, (Sorting.sort_perm Text.le _).mem_iff]
  exact mem_sourcesIn_iff uniqueHere

private theorem sources_pairwise (proper : fs.isProper = true) :
    (sources fs options directory).Pairwise (List.Lex (· < ·)) := by
  have uniqueHere := FileSystem.hasUniqueNames_of_entry unique there
  have properHere := FileSystem.isProper_of_entry proper there
  obtain ⟨slashes, names, few, properNames, same⟩ := FileSystem.isNormal_absolute proper directory
  rw [sources_of_entry options there, same]
  exact Text.sort_pairwise_lex
    (nodup_sourcesIn (by omega) properHere uniqueHere rfl properNames)

end

/-- A search of a directory gives the strictly increasing list of the source files below it,
whatever the order in which directories list their entries. -/
theorem discover_exact (fs : FileSystem) (options : Options) (proper : fs.isProper = true)
    (unique : fs.root.hasUniqueNames = true) (directory : Text)
    (there : fs.isDirectory (fs.absolute directory) = true) :
    ∃ entries found, fs.entry (fs.absolute directory) = .ok (.directory entries) ∧
      (discover fs options directory).result = .ok found ∧
      found.Pairwise (List.Lex (· < ·)) ∧
      (∀ path, path ∈ found ↔
        IsSourceBelow fs options (fs.absolute directory) (.directory entries) path) ∧
      ∀ other, fs.Relisted other → (discover other options directory).result = .ok found := by
  obtain ⟨entries, here⟩ := exists_entries there
  have members := mem_sources_iff options unique here
  have sorted := sources_pairwise options unique here proper
  refine ⟨entries, _, here, result_discover options there, sorted, members,
    fun other relisted => ?_⟩
  obtain ⟨others, hereToo, same⟩ := relisted.entry unique here
  have properToo := relisted.isProper proper
  have uniqueToo := relisted.root.hasUniqueNames unique
  have thereToo : other.isDirectory (other.absolute directory) = true := by
    rw [relisted.absolute, relisted.isDirectory unique, there]
  rw [← relisted.absolute] at hereToo
  rw [result_discover options thereToo]
  refine congrArg Except.ok
    (Text.eq_of_mem_iff (sources_pairwise options uniqueToo hereToo properToo)
    sorted fun path => ?_)
  rw [mem_sources_iff options uniqueToo hereToo, members, relisted.absolute]
  exact isSourceBelow_relisted relisted unique same (FileSystem.hasUniqueNames_of_entry unique here)
    _ _

/-- Entries of all kinds: directories, hidden and excluded ones among them, links to a directory and
one that leads nowhere, and a file that is no source. -/
def cluttered : List (Text × Entry) :=
  [("m", .directory [("d.cs", .file []), (".e.cs", .file [])]), ("g.cs", .link "m"),
    ("l", .link "m"),
    (".git", .directory [("a.cs", .file [])]), ("obj", .directory [("b.cs", .file [])]),
    ("n.txt", .file []), ("f.cs", .link "nowhere"), ("c.cs", .file [])]

def clutteredAs (entries : List (Text × Entry)) : FileSystem :=
  ⟨.directory [(".s", .directory entries)], "/"⟩

/-- The files of the directory that is searched and of the one below it that is not hidden are
found, and links that lead to no directory; the order in which the entries are listed does not
matter. -/
theorem discover_cluttered :
    ∃ found, (discover (clutteredAs cluttered) .default ".s").result = .ok found ∧
      found = [Text.ofString "/.s/c.cs", Text.ofString "/.s/f.cs", Text.ofString "/.s/m/.e.cs",
        Text.ofString "/.s/m/d.cs"] ∧
      (discover (clutteredAs cluttered.reverse) .default ".s").result = .ok found := by
  have relisted : (clutteredAs cluttered).Relisted (clutteredAs cluttered.reverse) := by
    refine ⟨rfl, .directory [(".s", .directory cluttered, .directory cluttered.reverse)] _
      ?_ (.refl _)⟩
    intro item member
    obtain rfl := List.mem_singleton.mp member
    exact Entry.Relisted.of_perm cluttered.reverse_perm.symm
  obtain ⟨_, found, -, searched, -, -, anyOrder⟩ := discover_exact (clutteredAs cluttered) .default
    (by decide) (by decide) ".s" (by decide)
  have listed : (discover (clutteredAs cluttered) .default ".s").result =
      .ok [Text.ofString "/.s/c.cs", Text.ofString "/.s/f.cs", Text.ofString "/.s/m/.e.cs",
        Text.ofString "/.s/m/d.cs"] := by
    decide
  exact ⟨found, searched, Except.ok.inj (searched.symm.trans listed), anyOrder _ relisted⟩

end Extraction

end Outline

/-! ## Files that are found are accepted

A search looks at the name of an entry; work on a file looks at the whole path, which is made
absolute once more. Both come to the same, because a found path is normal and ends in the name that
was looked at. So no file that is found is refused for its extension, even if the file system has
changed in between.
-/

namespace Outline.Extraction

private theorem outline_ne_notSource (tree : ParseTree) (path : Text) (legacy : Bool) (named : Text)
    (listed : List Text) : outline tree path legacy ≠ .error (.notSource named listed) := by
  rw [outline]
  split_ifs <;> simp

variable (w : Workspace) (options : Options)

private theorem diagnoseContent_ne_notSource (path : Text) (legacy : Bool) (named : Text)
    (listed : List Text) :
    (diagnoseContent w path legacy).result ≠ .error (.notSource named listed) := by
  rw [result_diagnoseContent]
  cases w.files.read path with
  | error e => simp [Except.mapError, Except.bind]
  | ok source =>
    have built := outline_ne_notSource (w.parser.parse source) path legacy named listed
    simp only [Except.mapError, Except.bind]
    cases result : outline (w.parser.parse source) path legacy with
    | error failure => simpa [Except.map, result] using built
    | ok model => simp [Except.map]

section Join

variable {folder name : Text} (normal : Path.IsNormal folder) (proper : Path.isName name = true)

include normal proper

private theorem diagnose_join : diagnose w options (Path.join folder name) =
    if w.files.isFile (Path.join folder name) then
      if isSource options name then
        withinFile (Path.join folder name)
          (diagnoseContent w (Path.join folder name) options.legacyScoping)
      else Logged.fail (.notSource (Path.join folder name) options.extensions)
    else Logged.fail (.fileNotFound (Path.join folder name)) := by
  have free := (Path.isName_iff.mp proper).2.1
  have same : w.files.absolute (Path.join folder name) = Path.join folder name :=
    (normal.join proper).absolute_eq w.files.directory
  rw [diagnose, same, Path.extension_join free, ← isSource]
  cases w.files.isFile (Path.join folder name) <;> cases isSource options name <;> rfl

/-- A file is refused for its extension exactly if a search passes over it for its name. -/
theorem diagnose_eq_notSource_iff {path : Text} {listed : List Text} :
    (diagnose w options (Path.join folder name)).result = .error (.notSource path listed) ↔
      w.files.isFile (Path.join folder name) = true ∧ isSource options name = false ∧
        path = Path.join folder name ∧ listed = options.extensions := by
  have content := diagnoseContent_ne_notSource w (Path.join folder name) options.legacyScoping path
    listed
  rw [diagnose_join w options normal proper]
  split_ifs with there source
  · simp [withinFile, source, content]
  · simp [there, source, eq_comm]
  · simp [there]

end Join

/-- A path that is found is its own absolute path, wherever it is made absolute, and looking through
the whole of it finds the extension of its last component, which is one of a source file. So a found
file is never refused for its extension: if it is still there, work on its content begins. -/
theorem diagnose_accepts_found (fs : FileSystem) (options : Options) (proper : fs.isProper = true)
    (directory : Text) (found : List Text)
    (searched : (discover fs options directory).result = .ok found) :
    ∀ path ∈ found,
      (∀ start, Path.absolute start path = path) ∧
      Path.scanExtension path = Path.scanExtension (Path.fileName path) ∧
      Path.extension path = Path.scanExtension path ∧
      Path.extension path ∈ options.extensions ∧
      isSource options (Path.fileName path) = true ∧
      ∀ w : Workspace,
        (∀ named listed, (diagnose w options path).result ≠ .error (.notSource named listed)) ∧
        diagnose w options path =
          if w.files.isFile path then
            withinFile path (diagnoseContent w path options.legacyScoping)
          else Logged.fail (.fileNotFound path) := by
  intro path member
  obtain rfl := eq_sources_of_discover options searched
  obtain ⟨folder, name, normal, named, source, rfl⟩ :=
    isSourcePath_of_mem_sources options proper member
  have free := (Path.isName_iff.mp named).2.1
  have extension_eq := Path.extension_join free folder
  have last := Path.fileName_join free folder
  refine ⟨(normal.join named).absolute_eq, ?_, (Path.scanExtension_eq _).symm, ?_, ?_,
    fun w => ⟨?_, ?_⟩⟩
  · rw [Path.scanExtension_eq, Path.scanExtension_eq, Path.extension_fileName]
  · rw [extension_eq, ← List.contains_iff_mem]
    exact source
  · rw [last]
    exact source
  · intro other listed refused
    obtain ⟨-, passed, -⟩ := (diagnose_eq_notSource_iff w options normal named).mp refused
    exact Bool.false_ne_true (passed.symm.trans source)
  · rw [diagnose_join w options normal named, if_pos source]

/-- Names that are all dots, begin with dots or end in one, below a directory with dots in its
name. -/
def dottedFiles : FileSystem :=
  ⟨.directory [("r.cs", .directory
    [("v.1.cs", .directory [("n.", .file []), (".cs", .file []), ("a.b.cs", .file []),
      ("...", .file []), ("e.txt", .file []), ("d.cs", .directory [])])])], "/r.cs"⟩

/-- Options by which files without an extension are source files too. -/
def dottedOptions : Options := { Options.default with extensions := Text.set ["", ".", ".cs"] }

/-- The directory is named with two slashes in front and with `.` and `..` on the way. The name of
three dots has no extension, nor has the path that ends in it. -/
theorem diagnose_accepts_dotted :
    ∃ found, (discover dottedFiles dottedOptions "//./r.cs//v.1.cs/..").result = .ok found ∧
      found = [Text.ofString "//r.cs/v.1.cs/...", Text.ofString "//r.cs/v.1.cs/.cs",
        Text.ofString "//r.cs/v.1.cs/a.b.cs", Text.ofString "//r.cs/v.1.cs/n."] ∧
      Path.scanExtension "//r.cs/v.1.cs/..." = [] ∧
      ∀ path ∈ found, Path.absolute "/r.cs" path = path ∧
        ∀ (w : Workspace) (named : Text) (listed : List Text),
          (diagnose w dottedOptions path).result ≠ .error (.notSource named listed) := by
  have proper : dottedFiles.isProper = true := by decide
  have searched : (discover dottedFiles dottedOptions "//./r.cs//v.1.cs/..").result =
      .ok [Text.ofString "//r.cs/v.1.cs/...", Text.ofString "//r.cs/v.1.cs/.cs",
        Text.ofString "//r.cs/v.1.cs/a.b.cs", Text.ofString "//r.cs/v.1.cs/n."] := by
    decide
  have accepted := diagnose_accepts_found dottedFiles dottedOptions proper _ _ searched
  refine ⟨_, searched, rfl, by decide, fun path member => ?_⟩
  obtain ⟨absolute, -, -, -, -, work⟩ := accepted path member
  exact ⟨absolute "/r.cs", fun w => (work w).1⟩

end Outline.Extraction
