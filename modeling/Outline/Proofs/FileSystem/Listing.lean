import Mathlib.Data.List.Nodup
import Outline.Proofs.FileSystem.Growth
import Outline.Proofs.FileSystem.Paths

/-!
File systems that differ in nothing that a path can tell.
-/

set_option autoImplicit false

/-! ## The order in which a directory lists its entries

No two entries of a directory have the same name, so what a name stands for does not depend on where
it is listed. A file system with its directories listed in other orders has the same entries at all
places, and every path leads to the same place in both.
-/

namespace Outline

namespace Entry

theorem induction_on {P : Entry → Prop} (file : ∀ content, P (.file content))
    (link : ∀ target, P (.link target))
    (directory : ∀ entries, (∀ pair ∈ entries, P pair.2) → P (.directory entries)) (entry : Entry) :
    P entry := by
  refine Entry.rec (motive_1 := P) (motive_2 := fun entries => ∀ pair ∈ entries, P pair.2)
    (motive_3 := fun pair => P pair.2) file link directory ?_ ?_ ?_ entry
  · intro pair member
    exact absurd member List.not_mem_nil
  · intro pair entries here below
    exact List.forall_mem_cons.mpr ⟨here, below⟩
  · intro name below holds
    exact holds

/-! ### Names that are there once -/

mutual

/-- Whether no two entries of a directory have the same name, here and below. -/
def hasUniqueNames : Entry → Bool
  | .file _ | .link _ => true
  | .directory entries => decide (entries.map Prod.fst).Nodup && haveUniqueNames entries

/-- Whether names are unique in the directories among entries and below them. -/
def haveUniqueNames : List (Text × Entry) → Bool
  | [] => true
  | (_, entry) :: entries => hasUniqueNames entry && haveUniqueNames entries

end

private theorem haveUniqueNames_iff {entries : List (Text × Entry)} :
    haveUniqueNames entries = true ↔ ∀ pair ∈ entries, pair.2.hasUniqueNames = true := by
  induction entries with
  | nil => simp [haveUniqueNames]
  | cons pair entries ih => simp [haveUniqueNames, ih]

theorem hasUniqueNames_directory_iff {entries : List (Text × Entry)} :
    (directory entries).hasUniqueNames = true ↔
      (entries.map Prod.fst).Nodup ∧ ∀ pair ∈ entries, pair.2.hasUniqueNames = true := by
  rw [hasUniqueNames, Bool.and_eq_true, decide_eq_true_iff, haveUniqueNames_iff]

theorem areProper_iff {entries : List (Text × Entry)} : areProper entries = true ↔
    ∀ pair ∈ entries, Path.isName pair.1 = true ∧ pair.2.isProper = true := by
  induction entries with
  | nil => simp [areProper]
  | cons pair entries ih => simp [areProper, ih, and_assoc]

theorem mem_of_lookup? {entries : List (Text × Entry)} {name : Text} {entry : Entry}
    (found : lookup? name entries = some entry) : (name, entry) ∈ entries := by
  induction entries with
  | nil => exact absurd found (by simp [lookup?])
  | cons head entries ih =>
    rw [lookup?] at found
    split_ifs at found with same
    · obtain rfl := Option.some.inj found
      rw [← same]
      exact List.mem_cons_self
    · exact List.mem_cons_of_mem _ (ih found)

theorem lookup?_eq_some_iff {entries : List (Text × Entry)}
    (unique : (entries.map Prod.fst).Nodup) {name : Text} {entry : Entry} :
    lookup? name entries = some entry ↔ (name, entry) ∈ entries := by
  refine ⟨mem_of_lookup?, fun member => ?_⟩
  induction entries with
  | nil => exact absurd member List.not_mem_nil
  | cons head entries ih =>
    rw [List.map_cons, List.nodup_cons] at unique
    rw [lookup?]
    rcases List.mem_cons.mp member with rfl | later
    · rw [if_pos rfl]
    · have different : head.1 ≠ name := by
        intro same
        exact unique.1 (List.mem_map.mpr ⟨_, later, same.symm⟩)
      rw [if_neg different]
      exact ih unique.2 later

private theorem hasUniqueNames_of_at? {root entry : Entry} (unique : root.hasUniqueNames = true)
    {place : List Text} (found : root.at? place = some entry) : entry.hasUniqueNames = true := by
  induction place generalizing root with
  | nil =>
    rw [at?_nil] at found
    exact Option.some.inj found ▸ unique
  | cons name names ih =>
    cases root with
    | file content => exact absurd found (by simp [at?])
    | link target => exact absurd found (by simp [at?])
    | directory entries =>
      rw [at?_directory_cons] at found
      obtain ⟨below, there, further⟩ := Option.bind_eq_some_iff.mp found
      exact ih ((hasUniqueNames_directory_iff.mp unique).2 _ (mem_of_lookup? there)) further

/-! ### Other orders -/

/-- The same entry with the entries of its directories listed in other orders. A directory pairs
each of its entries with what has become of it. -/
inductive Relisted : Entry → Entry → Prop
  | file (content : Bytes) : Relisted (file content) (file content)
  | link (target : Text) : Relisted (link target) (link target)
  | directory (listed : List (Text × Entry × Entry)) (new : List (Text × Entry)) :
    (∀ item ∈ listed, Relisted item.2.1 item.2.2) →
    (listed.map fun item => (item.1, item.2.2)).Perm new →
    Relisted (directory (listed.map fun item => (item.1, item.2.1))) (directory new)

private theorem relisted_of_perm {old new : List (Text × Entry)}
    (each : ∀ pair ∈ old, Relisted pair.2 pair.2) (perm : old.Perm new) :
    Relisted (directory old) (directory new) := by
  obtain ⟨listed, before, after, alike⟩ : ∃ listed : List (Text × Entry × Entry),
      listed.map (fun item => (item.1, item.2.1)) = old ∧
      listed.map (fun item => (item.1, item.2.2)) = old ∧
      ∀ item ∈ listed, Relisted item.2.1 item.2.2 := by
    refine ⟨old.map fun pair => (pair.1, pair.2, pair.2), by simp [Function.comp_def],
      by simp [Function.comp_def], fun item member => ?_⟩
    obtain ⟨pair, inside, rfl⟩ := List.mem_map.mp member
    exact each pair inside
  rw [← after] at perm
  rw [← before]
  exact .directory listed new alike perm

private theorem Relisted.refl (entry : Entry) : Relisted entry entry := by
  induction entry using induction_on with
  | file content => exact .file content
  | link target => exact .link target
  | directory entries ih => exact relisted_of_perm ih (.refl entries)

theorem Relisted.of_perm {old new : List (Text × Entry)} (perm : old.Perm new) :
    Relisted (Entry.directory old) (Entry.directory new) :=
  relisted_of_perm (fun pair _ => .refl pair.2) perm

private theorem names_listed (listed : List (Text × Entry × Entry)) :
    (listed.map fun item => (item.1, item.2.2)).map Prod.fst =
      (listed.map fun item => (item.1, item.2.1)).map Prod.fst := by
  rw [List.map_map, List.map_map]
  rfl

theorem Relisted.hasUniqueNames {old new : Entry} (relisted : Relisted old new)
    (unique : old.hasUniqueNames = true) : new.hasUniqueNames = true := by
  induction relisted with
  | file content => exact unique
  | link target => exact unique
  | directory listed new _ perm ih =>
    obtain ⟨once, below⟩ := hasUniqueNames_directory_iff.mp unique
    refine hasUniqueNames_directory_iff.mpr ⟨?_, fun pair member => ?_⟩
    · rw [← names_listed] at once
      exact (perm.map Prod.fst).nodup_iff.mp once
    · obtain ⟨item, inside, rfl⟩ := List.mem_map.mp (perm.mem_iff.mpr member)
      exact ih item inside (below _ (List.mem_map_of_mem inside))

private theorem Relisted.isProper {old new : Entry} (relisted : Relisted old new)
    (proper : old.isProper = true) : new.isProper = true := by
  induction relisted with
  | file content => exact proper
  | link target => exact proper
  | directory listed new _ perm ih =>
    rw [Entry.isProper, areProper_iff] at proper ⊢
    intro pair member
    obtain ⟨item, inside, rfl⟩ := List.mem_map.mp (perm.mem_iff.mpr member)
    obtain ⟨named, below⟩ := proper _ (List.mem_map_of_mem inside)
    exact ⟨named, ih item inside below⟩

private theorem relisted_lookup? {listed : List (Text × Entry × Entry)} {new : List (Text × Entry)}
    (each : ∀ item ∈ listed, Relisted item.2.1 item.2.2)
    (perm : (listed.map fun item => (item.1, item.2.2)).Perm new)
    (unique : (listed.map Prod.fst).Nodup) (name : Text) :
    Option.Rel Relisted (lookup? name (listed.map fun item => (item.1, item.2.1)))
      (lookup? name new) := by
  have once : ((listed.map fun item => (item.1, item.2.2)).map Prod.fst).Nodup := by
    rw [List.map_map]
    exact unique
  have same : lookup? name new = lookup? name (listed.map fun item => (item.1, item.2.2)) := by
    refine Option.ext fun entry => ?_
    rw [lookup?_eq_some_iff once, lookup?_eq_some_iff ((perm.map Prod.fst).nodup_iff.mp once)]
    exact perm.mem_iff.symm
  rw [same]
  clear perm same once unique
  induction listed with
  | nil => exact .none
  | cons item listed ih =>
    obtain ⟨here, below⟩ := List.forall_mem_cons.mp each
    rw [List.map_cons, List.map_cons, lookup?, lookup?]
    split_ifs
    · exact .some here
    · exact ih below

theorem Relisted.at? {old new : Entry} (relisted : Relisted old new)
    (unique : old.hasUniqueNames = true) (place : List Text) :
    Option.Rel Relisted (old.at? place) (new.at? place) := by
  induction place generalizing old new with
  | nil =>
    rw [at?_nil, at?_nil]
    exact .some relisted
  | cons name names ih =>
    cases relisted with
    | file content => exact .none
    | link target => exact .none
    | directory listed new each perm =>
      obtain ⟨once, below⟩ := hasUniqueNames_directory_iff.mp unique
      rw [at?_directory_cons, at?_directory_cons]
      have names : (listed.map Prod.fst).Nodup := by
        rw [List.map_map] at once
        exact once
      have found := relisted_lookup? each perm names name
      generalize here : lookup? name (listed.map fun item => (item.1, item.2.1)) = first at found ⊢
      generalize lookup? name new = second at found ⊢
      cases found with
      | none => exact .none
      | some same => exact ih same (below _ ((lookup?_eq_some_iff once).mp here))

private theorem Relisted.extends {old new : Entry} (relisted : Relisted old new)
    (unique : old.hasUniqueNames = true) : Extends ∅ old new ∧ Extends ∅ new old := by
  constructor
  · intro place entry there
    have both := relisted.at? unique place
    rw [there] at both
    generalize new.at? place = found at both ⊢
    cases both with
    | some same =>
      refine ⟨_, rfl, ?_⟩
      cases same <;> constructor
  · intro place entry there
    have both := relisted.at? unique place
    rw [there] at both
    generalize old.at? place = found at both ⊢
    cases both with
    | some same =>
      refine ⟨_, rfl, ?_⟩
      cases same <;> constructor

end Entry

namespace FileSystem

/-- The same file system with its directories listed in other orders. -/
structure Relisted (fs other : FileSystem) : Prop where
  directory_eq : other.directory = fs.directory
  root : Entry.Relisted fs.root other.root

theorem hasUniqueNames_of_entry {fs : FileSystem} (unique : fs.root.hasUniqueNames = true)
    {path : Text}
    {found : Entry} (there : fs.entry path = .ok found) : found.hasUniqueNames = true := by
  obtain ⟨place, reached⟩ := entry_eq_ok_iff.mp there
  exact Entry.hasUniqueNames_of_at? unique (resolve_landed reached).found_eq.symm

variable {fs other : FileSystem} (relisted : Relisted fs other)

include relisted

theorem Relisted.isProper (proper : fs.isProper = true) : other.isProper = true := by
  rw [FileSystem.isProper, Bool.and_eq_true] at proper ⊢
  rw [relisted.directory_eq]
  exact ⟨proper.1, relisted.root.isProper proper.2⟩

theorem Relisted.absolute (path : Text) : other.absolute path = fs.absolute path := by
  rw [FileSystem.absolute, FileSystem.absolute, relisted.directory_eq]

variable (unique : fs.root.hasUniqueNames = true)

include unique

theorem Relisted.isDirectory (path : Text) : other.isDirectory path = fs.isDirectory path := by
  obtain ⟨there, back⟩ := relisted.root.extends unique
  have grown : Grows ∅ fs other := ⟨relisted.directory_eq, there⟩
  have shrunk : Grows ∅ other fs := ⟨relisted.directory_eq.symm, back⟩
  exact Bool.eq_iff_iff.mpr ⟨shrunk.isDirectory, grown.isDirectory⟩

theorem Relisted.entry {path : Text} {entries : List (Text × Entry)}
    (found : fs.entry path = .ok (.directory entries)) :
    ∃ others, other.entry path = .ok (.directory others) ∧
      Entry.Relisted (.directory entries) (.directory others) := by
  obtain ⟨place, reached⟩ := entry_eq_ok_iff.mp found
  have both := relisted.root.at? unique place
  rw [← (resolve_landed reached).found_eq] at both
  have grown : Grows ∅ fs other := ⟨relisted.directory_eq, (relisted.root.extends unique).1⟩
  generalize there : other.root.at? place = later at both
  cases both with
  | some same =>
    cases same with
    | directory listed others each perm =>
      refine ⟨others, entry_eq_ok_iff.mpr ⟨place, ?_⟩, .directory listed others each perm⟩
      rw [grown.resolve id (by simp [there]) reached, there]

end FileSystem

end Outline

/-! ## Rewriting a file

Giving a file other content changes nothing else: every path leads where it led, every other file
reads as before, and the tree of names is the same. Writing the old content back restores the file
system, so what holds after rewriting holds before it.
-/

namespace Outline

namespace Entry

/-! ### Putting an entry where one is -/

private theorem insert_insert (name : Text) (first second : Entry) (entries : List (Text × Entry)) :
    insert name second (insert name first entries) = insert name second entries := by
  induction entries with
  | nil => simp only [insert, ↓reduceIte]
  | cons head entries ih =>
    obtain ⟨other, old⟩ := head
    by_cases same : other = name
    · rw [insert, if_pos same, insert, if_pos same, insert, if_pos same]
    · rw [insert, if_neg same, insert, if_neg same, ih, insert, if_neg same]

private theorem insert_self {name : Text} {entry : Entry} {entries : List (Text × Entry)}
    (found : lookup? name entries = some entry) : insert name entry entries = entries := by
  induction entries with
  | nil => exact absurd found (by simp [lookup?])
  | cons head entries ih =>
    obtain ⟨other, old⟩ := head
    rw [lookup?] at found
    rw [insert]
    split_ifs at found ⊢
    · rw [Option.some.inj found]
    · rw [ih found]

private theorem put_nil (new root : Entry) : put new root [] = new := by
  cases root <;> rfl

private theorem put_directory_cons {name : Text} {entries : List (Text × Entry)} {below : Entry}
    (found : lookup? name entries = some below) (new : Entry) (names : List Text) :
    put new (directory entries) (name :: names) =
      directory (insert name (put new below names) entries) := by
  cases names with
  | nil => rw [put_nil, put]
  | cons next names =>
    rw [put, found]
    simp

theorem exists_of_at?_cons {root entry : Entry} {name : Text} {names : List Text}
    (found : root.at? (name :: names) = some entry) :
    ∃ entries below, root = directory entries ∧ lookup? name entries = some below ∧
      below.at? names = some entry := by
  cases root with
  | file content => exact absurd found (by simp [at?])
  | link target => exact absurd found (by simp [at?])
  | directory entries =>
    rw [at?_directory_cons] at found
    obtain ⟨below, there, further⟩ := Option.bind_eq_some_iff.mp found
    exact ⟨entries, below, rfl, there, further⟩

private theorem put_back {root old : Entry} (new : Entry) {place : List Text}
    (found : root.at? place = some old) : put old (put new root place) place = root := by
  induction place generalizing root with
  | nil =>
    rw [at?_nil] at found
    rw [put_nil, Option.some.inj found]
  | cons name names ih =>
    obtain ⟨entries, below, rfl, there, further⟩ := exists_of_at?_cons found
    have thereNow : lookup? name (insert name (put new below names) entries) =
        some (put new below names) := by
      rw [lookup?_insert, if_pos rfl]
    rw [put_directory_cons there, put_directory_cons thereNow, ih further, insert_insert,
      insert_self there]

/-! ### The tree of names -/

mutual

def shape : Entry → Entry
  | .file _ => .file []
  | .link target => .link target
  | .directory entries => .directory (shapes entries)

def shapes : List (Text × Entry) → List (Text × Entry)
  | [] => []
  | (name, entry) :: entries => (name, shape entry) :: shapes entries

end

private theorem lookup?_shapes (name : Text) (entries : List (Text × Entry)) :
    lookup? name (shapes entries) = (lookup? name entries).map shape := by
  induction entries with
  | nil => rw [shapes, lookup?, Option.map_none]
  | cons head entries ih =>
    obtain ⟨other, entry⟩ := head
    rw [shapes, lookup?, lookup?, ih]
    split_ifs <;> rfl

private theorem shapes_insert (name : Text) (entry : Entry) (entries : List (Text × Entry)) :
    shapes (insert name entry entries) = insert name (shape entry) (shapes entries) := by
  induction entries with
  | nil => simp only [insert, shapes]
  | cons head entries ih =>
    obtain ⟨other, old⟩ := head
    rw [insert, shapes, insert]
    split_ifs
    · rw [shapes]
    · rw [shapes, ih]

private theorem at?_shape (root : Entry) (place : List Text) :
    root.shape.at? place = (root.at? place).map shape := by
  induction place generalizing root with
  | nil => rw [at?_nil, at?_nil, Option.map_some]
  | cons name names ih =>
    cases root with
    | file content => rfl
    | link target => rfl
    | directory entries =>
      rw [shape, at?_directory_cons, at?_directory_cons, lookup?_shapes]
      cases lookup? name entries with
      | none => rfl
      | some below => exact ih below

private theorem shape_put {root : Entry} {place : List Text} {old : Bytes}
    (found : root.at? place = some (file old)) (new : Bytes) :
    (put (file new) root place).shape = root.shape := by
  induction place generalizing root with
  | nil =>
    rw [at?_nil] at found
    rw [put_nil, Option.some.inj found, shape, shape]
  | cons name names ih =>
    obtain ⟨entries, below, rfl, there, further⟩ := exists_of_at?_cons found
    have same : lookup? name (shapes entries) = some below.shape := by
      rw [lookup?_shapes, there, Option.map_some]
    rw [put_directory_cons there, shape, shapes_insert, ih further, shape, insert_self same]

end Entry

namespace FileSystem

private theorem Grows.isFile {touched : Set (List Text)} {fs later : FileSystem}
    (grown : Grows touched fs later) {path : Text} (there : fs.isFile path = true) :
    later.isFile path = true := by
  obtain ⟨content, read⟩ := isFile_iff.mp there
  obtain ⟨place, reached⟩ := read_eq_ok_iff.mp read
  obtain ⟨entry, found, persists⟩ :=
    grown.root_extends place _ (resolve_landed reached).found_eq.symm
  obtain ⟨now, rfl⟩ : ∃ now, entry = .file now := by
    cases persists with
    | file content => exact ⟨content, rfl⟩
    | rewrite _ now _ => exact ⟨now, rfl⟩
  refine isFile_iff.mpr ⟨now, read_eq_ok_iff.mpr ⟨place, ?_⟩⟩
  rw [grown.resolve id (by simp [found]) reached, found]

section

variable {fs later : FileSystem} {path : Text} {old new : Bytes}
  (before : fs.read path = .ok old) (written : fs.write path new = .ok later)

include before written

private theorem exists_put_of_write : ∃ place, fs.root.at? place = some (.file old) ∧
    later = { fs with root := Entry.put (.file new) fs.root place } ∧
    ∀ creating, later.resolve creating path = .ok (place, some (.file new)) := by
  obtain ⟨place, reached⟩ := read_eq_ok_iff.mp before
  have there := (resolve_landed reached).found_eq.symm
  cases creating : fs.resolve true path with
  | error cause => simp [write, creating] at written
  | ok pair =>
    obtain ⟨target, found⟩ := pair
    have landed := resolve_landed creating
    have reading : fs.resolve false path = .ok (target, fs.root.at? target) :=
      (Grows.refl ∅ fs).resolve (fun _ => rfl)
        (fun link same => landed.not_link link (landed.found_eq.trans same)) creating
    obtain ⟨rfl, -⟩ := Prod.mk.inj (Except.ok.inj (reached.symm.trans reading))
    obtain rfl : found = some (.file old) := landed.found_eq.trans there
    obtain rfl : { fs with root := Entry.put (.file new) fs.root place } = later := by
      rw [write, creating] at written
      exact Except.ok.inj written
    refine ⟨place, there, rfl, fun asked => ?_⟩
    obtain ⟨other, grown, leads⟩ := resolve_write written
    have put := Entry.at?_put (.file new) landed.room
    have same := grown.resolve id (by simp [put]) creating
    rw [leads true, put] at same
    obtain ⟨rfl, -⟩ := Prod.mk.inj (Except.ok.inj same)
    exact leads asked

private theorem write_back : later.write path old = .ok fs := by
  obtain ⟨place, there, rfl, leads⟩ := exists_put_of_write before written
  rw [write, leads true]
  dsimp only
  rw [Entry.put_back _ there]

private theorem shape_write : later.root.shape = fs.root.shape := by
  obtain ⟨place, there, rfl, -⟩ := exists_put_of_write before written
  exact Entry.shape_put there new

theorem kind_rewrite (other : Text) : later.isDirectory other = fs.isDirectory other ∧
    later.isFile other = fs.isFile other := by
  obtain ⟨_, grown, -⟩ := resolve_write written
  obtain ⟨_, shrunk, -⟩ := resolve_write (write_back before written)
  exact ⟨Bool.eq_iff_iff.mpr ⟨shrunk.isDirectory, grown.isDirectory⟩,
    Bool.eq_iff_iff.mpr ⟨shrunk.isFile, grown.isFile⟩⟩

theorem absolute_rewrite (other : Text) : later.absolute other = fs.absolute other := by
  obtain ⟨_, -, rfl, -⟩ := exists_put_of_write before written
  rfl

theorem entry_rewrite {other : Text} {entries : List (Text × Entry)}
    (found : fs.entry other = .ok (.directory entries)) :
    ∃ now, later.entry other = .ok (.directory now) ∧ Entry.shapes now = Entry.shapes entries := by
  obtain ⟨place, reached⟩ := entry_eq_ok_iff.mp found
  have there := (resolve_landed reached).found_eq.symm
  obtain ⟨_, grown, -⟩ := resolve_write written
  obtain ⟨now, thereNow⟩ := grown.root_extends.directory there
  refine ⟨now, entry_eq_ok_iff.mpr ⟨place, ?_⟩, ?_⟩
  · rw [grown.resolve id (by simp [thereNow]) reached, thereNow]
  · have both := congrArg (Entry.at? · place) (shape_write before written)
    simp only [Entry.at?_shape, there, thereNow, Option.map_some, Entry.shape] at both
    exact Entry.directory.inj (Option.some.inj both)

private theorem resolve_eq_of_rewrite {other : Text}
    (same : later.resolve false other = later.resolve false path) :
    fs.resolve false other = fs.resolve false path := by
  obtain ⟨_, shrunk, -⟩ := resolve_write (write_back before written)
  obtain ⟨place, there, -, leads⟩ := exists_put_of_write before written
  have notLink : ∀ link, fs.root.at? place ≠ some (.link link) := by simp [there]
  rw [leads false] at same
  exact (shrunk.resolve id notLink same).trans (shrunk.resolve id notLink (leads false)).symm

theorem read_rewrite_iff {other : Text} {content : Bytes}
    (apart : fs.resolve false other ≠ fs.resolve false path) :
    later.read other = .ok content ↔ fs.read other = .ok content := by
  constructor
  · intro read
    exact read_write_other (write_back before written) read apart
  · intro read
    exact read_write_other written read fun same =>
      apart (resolve_eq_of_rewrite before written same)

end

end FileSystem

end Outline
