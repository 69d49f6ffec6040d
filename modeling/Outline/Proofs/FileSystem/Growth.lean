import Mathlib.Data.List.Induction
import Mathlib.Data.Set.Basic
import Outline.FileSystem

/-!
How a file system grows.

Making a directory only adds entries, and writing a file adds one or gives one file other content:
what was a directory, a link or a file stays one. So a path that led somewhere leads to the same
place afterwards, a file that was written is read back through the path it was written by, and every
other file reads as before.
-/

set_option autoImplicit false

namespace Outline

namespace Entry

/-! ### Entries by place -/

theorem lookup?_insert (name other : Text) (entry : Entry) (entries : List (Text × Entry)) :
    lookup? other (insert name entry entries) =
      if name = other then some entry else lookup? other entries := by
  induction entries with
  | nil => simp only [insert, lookup?]
  | cons head entries ih =>
    obtain ⟨n, old⟩ := head
    rw [insert]
    by_cases same : n = name
    · subst same
      rw [if_pos rfl, lookup?, lookup?]
      split_ifs <;> rfl
    · rw [if_neg same, lookup?, lookup?, ih]
      split_ifs with first second
      · exact absurd (first.trans second.symm) same
      · rfl
      · rfl
      · rfl

@[simp] theorem at?_nil (entry : Entry) : entry.at? [] = some entry := by
  cases entry <;> rfl

theorem at?_directory_cons (entries : List (Text × Entry)) (name : Text) (names : List Text) :
    (directory entries).at? (name :: names) = (lookup? name entries).bind (at? · names) := rfl

private theorem at?_append (entry : Entry) (place more : List Text) :
    entry.at? (place ++ more) = (entry.at? place).bind (at? · more) := by
  induction place generalizing entry with
  | nil => rw [List.nil_append, at?_nil, Option.bind_some]
  | cons name names ih =>
    cases entry with
    | directory entries =>
      rw [List.cons_append, at?_directory_cons, at?_directory_cons, Option.bind_assoc]
      exact congrArg _ (funext fun below => ih below)
    | file content => rfl
    | link target => rfl

theorem at?_append_singleton {root : Entry} {place : List Text} {entries : List (Text × Entry)}
    (there : root.at? place = some (directory entries)) (name : Text) :
    root.at? (place ++ [name]) = lookup? name entries := by
  rw [at?_append, there, Option.bind_some, at?_directory_cons]
  cases lookup? name entries with
  | none => rfl
  | some entry => exact at?_nil entry

private theorem at?_parent {root entry : Entry} {place : List Text} {name : Text}
    (found : root.at? (place ++ [name]) = some entry) :
    ∃ entries, root.at? place = some (directory entries) := by
  rw [at?_append] at found
  obtain ⟨parent, there, below⟩ := Option.bind_eq_some_iff.mp found
  cases parent with
  | directory entries => exact ⟨entries, there⟩
  | file content => exact absurd below (by simp [at?])
  | link target => exact absurd below (by simp [at?])

private theorem at?_dropLast {root : Entry} {place : List Text} {entries : List (Text × Entry)}
    (found : root.at? place = some (directory entries)) :
    ∃ above, root.at? place.dropLast = some (directory above) := by
  induction place using List.reverseRecOn with
  | nil => exact ⟨entries, found⟩
  | append_singleton place name _ =>
    rw [List.dropLast_concat]
    exact at?_parent found

private theorem at?_root {root : Entry} {place : List Text} {entries : List (Text × Entry)}
    (found : root.at? place = some (directory entries)) :
    ∃ top, root.at? [] = some (directory top) := by
  cases place with
  | nil => exact ⟨entries, found⟩
  | cons name names =>
    cases root with
    | directory top => exact ⟨top, rfl⟩
    | file content => exact absurd found (by simp [at?])
    | link target => exact absurd found (by simp [at?])

/-- Whether an entry can be put at a place: the directory above it is there. -/
def HasRoomAt (root : Entry) (place : List Text) : Prop :=
  place = [] ∨ ∃ above name entries,
    place = above ++ [name] ∧ root.at? above = some (directory entries)

private theorem hasRoomAt_of_found {root entry : Entry} {place : List Text}
    (found : root.at? place = some entry) : root.HasRoomAt place := by
  induction place using List.reverseRecOn with
  | nil => exact .inl rfl
  | append_singleton above name _ =>
    obtain ⟨entries, there⟩ := at?_parent found
    exact .inr ⟨above, name, entries, rfl, there⟩

/-! ### Putting an entry -/

/-- What may become of an entry: a directory may have other entries, a link stays as it is, and so
does a file unless it is rewritten. -/
inductive Persists (rewritten : Prop) : Entry → Entry → Prop
  | directory (old new : List (Text × Entry)) : Persists rewritten (directory old) (directory new)
  | link (target : Text) : Persists rewritten (link target) (link target)
  | file (content : Bytes) : Persists rewritten (file content) (file content)
  | rewrite (old new : Bytes) : rewritten → Persists rewritten (file old) (file new)

private theorem Persists.refl (rewritten : Prop) (entry : Entry) :
    Persists rewritten entry entry := by
  cases entry <;> constructor

private theorem Persists.mono {first second : Prop} (weaker : first → second) {old new : Entry}
    (h : Persists first old new) : Persists second old new := by
  cases h with
  | directory old new => exact .directory old new
  | link target => exact .link target
  | file content => exact .file content
  | rewrite old new touched => exact .rewrite old new (weaker touched)

private theorem Persists.trans {first second : Prop} {old mid new : Entry}
    (before : Persists first old mid)
    (after : Persists second mid new) : Persists (first ∨ second) old new := by
  cases before with
  | directory old mid =>
    cases after with
    | directory _ new => exact .directory old new
  | link target => exact after.mono .inr
  | file content => exact after.mono .inr
  | rewrite old mid touched =>
    cases after with
    | file content => exact .rewrite old mid (.inl touched)
    | rewrite _ new _ => exact .rewrite old new (.inl touched)

/-- What is found at a place of the old entry persists there in the new one, files at some places
being rewritten. -/
def Extends (touched : Set (List Text)) (old new : Entry) : Prop :=
  ∀ place entry, old.at? place = some entry →
    ∃ later, new.at? place = some later ∧ Persists (place ∈ touched) entry later

theorem Extends.refl (touched : Set (List Text)) (entry : Entry) : Extends touched entry entry :=
  fun _ found there => ⟨found, there, Persists.refl _ found⟩

private theorem Extends.trans {first second : Set (List Text)} {old mid new : Entry}
    (before : Extends first old mid) (after : Extends second mid new) :
    Extends (first ∪ second) old new := by
  intro place entry there
  obtain ⟨between, thereMid, persistsMid⟩ := before place entry there
  obtain ⟨later, thereNew, persistsNew⟩ := after place between thereMid
  exact ⟨later, thereNew, persistsMid.trans persistsNew⟩

theorem Extends.directory {touched : Set (List Text)} {old new : Entry}
    (grown : Extends touched old new) {place : List Text} {entries : List (Text × Entry)}
    (there : old.at? place = some (directory entries)) :
    ∃ later, new.at? place = some (Entry.directory later) := by
  obtain ⟨later, found, persists⟩ := grown place _ there
  cases persists with
  | directory _ later => exact ⟨later, found⟩

private theorem Extends.file {touched : Set (List Text)} {old new : Entry}
    (grown : Extends touched old new)
    {place : List Text} (untouched : place ∉ touched) {content : Bytes}
    (there : old.at? place = some (file content)) : new.at? place = some (Entry.file content) := by
  obtain ⟨later, found, persists⟩ := grown place _ there
  cases persists with
  | file _ => exact found
  | rewrite _ _ rewritten => exact absurd rewritten untouched

/-- What may be put at a place without loss: anything where nothing is, a file where a file is. -/
def IsHarmless (old : Option Entry) (new : Entry) : Prop :=
  old = none ∨ (∃ content, old = some (file content)) ∧ ∃ content, new = file content

private theorem IsHarmless.exists_at? {old : Option Entry} {new : Entry}
    (harmless : IsHarmless old new)
    {names : List Text} {entry : Entry} (there : old.bind (at? · names) = some entry) :
    ∃ later, new.at? names = some later ∧ Persists (names = []) entry later := by
  rcases harmless with rfl | ⟨⟨content, rfl⟩, fresh, rfl⟩
  · exact absurd there (by simp)
  · cases names with
    | nil =>
      obtain rfl := Option.some.inj there
      exact ⟨file fresh, rfl, .rewrite content fresh rfl⟩
    | cons name names => exact absurd there (by simp [at?])

private theorem extends_insert {touched : Set (List Text)} {entries : List (Text × Entry)}
    {name : Text} {new : Entry}
    (grown : ∀ place entry, (lookup? name entries).bind (at? · place) = some entry →
      ∃ later, new.at? place = some later ∧ Persists (name :: place ∈ touched) entry later) :
    Extends touched (directory entries) (directory (insert name new entries)) := by
  intro place entry there
  cases place with
  | nil =>
    obtain rfl := Option.some.inj there
    exact ⟨_, rfl, .directory _ _⟩
  | cons other place =>
    rw [at?_directory_cons, lookup?_insert]
    rw [at?_directory_cons] at there
    by_cases same : name = other
    · subst same
      rw [if_pos rfl]
      exact grown place entry there
    · rw [if_neg same]
      exact ⟨entry, there, Persists.refl _ entry⟩

private theorem extends_put {root new : Entry} {place : List Text}
    (harmless : IsHarmless (root.at? place) new) : Extends {place} root (put new root place) := by
  fun_induction put new root place with
  | case1 root =>
    intro names entry there
    rw [at?_nil] at harmless
    exact harmless.exists_at? there
  | case2 entries name =>
    refine extends_insert fun place entry there => ?_
    rw [at?_directory_cons] at harmless
    have here : IsHarmless (lookup? name entries) new := by
      cases found : lookup? name entries with
      | none => exact .inl rfl
      | some old =>
        rw [found, Option.bind_some, at?_nil] at harmless
        exact harmless
    obtain ⟨later, found, persists⟩ := here.exists_at? there
    exact ⟨later, found, persists.mono fun empty => congrArg (name :: ·) empty⟩
  | case3 entries name names _ below found ih =>
    refine extends_insert fun place entry there => ?_
    rw [at?_directory_cons, found] at harmless
    rw [found] at there
    obtain ⟨later, foundBelow, persists⟩ := ih harmless place entry there
    exact ⟨later, foundBelow, persists.mono fun same => congrArg (name :: ·) same⟩
  | case4 => exact Extends.refl _ _
  | case5 => exact Extends.refl _ _

theorem at?_put (new : Entry) {root : Entry} {place : List Text} (room : root.HasRoomAt place) :
    (put new root place).at? place = some new := by
  rcases room with rfl | ⟨above, name, entries, rfl, there⟩
  · cases root <;> exact at?_nil new
  · induction above generalizing root with
    | nil =>
      obtain rfl := Option.some.inj ((at?_nil root).symm.trans there)
      rw [List.nil_append, put, at?_directory_cons, lookup?_insert, if_pos rfl]
      exact at?_nil new
    | cons first above ih =>
      cases root with
      | file content => exact absurd there (by simp [at?])
      | link target => exact absurd there (by simp [at?])
      | directory top =>
        rw [at?_directory_cons] at there
        obtain ⟨below, found, thereBelow⟩ := Option.bind_eq_some_iff.mp there
        have rest : above ++ [name] ≠ [] := by simp
        rw [List.cons_append, put, found]
        · rw [at?_directory_cons, lookup?_insert, if_pos rfl]
          exact ih thereBelow
        · exact rest

end Entry

namespace FileSystem

open Entry (Extends HasRoomAt IsHarmless)

/-! ### Where components lead -/

def IsSolid (root : Entry) (place : List Text) : Prop :=
  ∃ entry, root.at? place = some entry ∧ ∀ target, entry ≠ .link target

private theorem isSolid_of_directory {root : Entry} {place : List Text}
    {entries : List (Text × Entry)}
    (there : root.at? place = some (.directory entries)) : IsSolid root place :=
  ⟨_, there, fun _ same => Entry.noConfusion same⟩

/-- Where following ends: at what is there, which is no link, below a directory that is there. -/
structure Landed (root : Entry) (place : List Text) (found : Option Entry) : Prop where
  found_eq : found = root.at? place
  not_link : ∀ target, found ≠ some (.link target)
  room : root.HasRoomAt place

private theorem IsSolid.landed {root : Entry} {place : List Text} (solid : IsSolid root place) :
    Landed root place (root.at? place) := by
  obtain ⟨entry, there, notLink⟩ := solid
  refine ⟨rfl, fun target same => ?_, Entry.hasRoomAt_of_found there⟩
  exact notLink target (Option.some.inj (there.symm.trans same))

private theorem followWith_landed {root : Entry} {creating : Bool}
    {atLink : List Text → List Text → Reached}
    (linked : ∀ place steps target found, IsSolid root place →
      atLink place steps = .ok (target, found) → Landed root target found)
    {place steps target : List Text} {found : Option Entry}
    (solid : steps = [] → IsSolid root place)
    (reached : followWith root creating atLink place steps = .ok (target, found)) :
    Landed root target found := by
  fun_induction followWith root creating atLink place steps with
  | case1 place =>
    obtain ⟨rfl, rfl⟩ := Prod.mk.inj (Except.ok.inj reached)
    exact (solid rfl).landed
  | case2 place step steps entries there _ ih =>
    exact ih (fun _ => isSolid_of_directory there) reached
  | case3 place steps entries there _ ih =>
    obtain ⟨above, thereAbove⟩ := Entry.at?_dropLast there
    exact ih (fun _ => isSolid_of_directory thereAbove) reached
  | case6 place step steps entries there _ _ _ _ missing =>
    obtain ⟨rfl, rfl⟩ := Prod.mk.inj (Except.ok.inj reached)
    refine ⟨?_, fun _ => nofun, .inr ⟨place, step, entries, rfl, there⟩⟩
    rw [Entry.at?_append_singleton there, missing]
  | case8 place step steps entries there _ _ _ _ link _ =>
    refine linked _ _ target found ?_ reached
    split_ifs
    · obtain ⟨top, thereTop⟩ := Entry.at?_root there
      exact isSolid_of_directory thereTop
    · exact isSolid_of_directory there
  | case9 place step steps entries there _ _ _ _ below notLink lookup ih =>
    refine ih (fun _ => ⟨below, ?_, notLink⟩) reached
    rw [Entry.at?_append_singleton there, lookup]
  | case4 | case5 | case7 | case10 => exact absurd reached (by simp)

private theorem follow_landed {root : Entry} {creating : Bool} {links : Nat}
    {place steps target : List Text}
    {found : Option Entry} (solid : steps = [] → IsSolid root place)
    (reached : follow root creating links place steps = .ok (target, found)) :
    Landed root target found := by
  induction links generalizing place steps target found with
  | zero =>
    refine followWith_landed (fun _ _ _ _ _ impossible => ?_) solid reached
    exact absurd impossible (by simp)
  | succ links ih =>
    refine followWith_landed (fun place steps target found there further => ?_) solid reached
    exact ih (fun _ => there) further

private theorem followWith_name {root : Entry} {creating : Bool}
    {atLink : List Text → List Text → Reached} {place : List Text} {entries : List (Text × Entry)}
    (there : root.at? place = some (.directory entries)) {step : Text} {steps : List Text}
    (notBlank : ¬(step = [] ∨ step = [Path.dot])) (notUp : step ≠ [Path.dot, Path.dot])
    (free : ¬(creating && !steps.isEmpty && steps.all List.isEmpty) = true)
    (short : ¬isLongName step = true) :
    followWith root creating atLink place (step :: steps) =
      match root.at? (place ++ [step]) with
      | none => if steps.isEmpty then .ok (place ++ [step], none) else .error .notFound
      | some (.link target) =>
        atLink (if Path.isAbsolute target then [] else place) (Path.components target ++ steps)
      | some _ => followWith root creating atLink (place ++ [step]) steps := by
  rw [followWith, there, Entry.at?_append_singleton there]
  dsimp only
  refine (if_neg notBlank).trans ((if_neg notUp).trans ((if_neg free).trans ?_))
  refine (if_neg short).trans ?_
  cases Entry.lookup? step entries with
  | none => rfl
  | some entry => cases entry <;> rfl

/-- In a root that has grown, components lead to the same place, unless a link has come to be there.
Whoever does not mean to create anything may go where someone who did could go. -/
private theorem followWith_extends {touched : Set (List Text)} {old new : Entry}
    (grown : Extends touched old new) {creating creating' : Bool}
    (mild : creating' = true → creating = true)
    {atLink atLink' : List Text → List Text → Reached} {target : List Text} {found : Option Entry}
    (notLink : ∀ link, new.at? target ≠ some (.link link))
    (linked : ∀ place steps, atLink place steps = .ok (target, found) →
      atLink' place steps = .ok (target, new.at? target))
    {place steps : List Text}
    (reached : followWith old creating atLink place steps = .ok (target, found)) :
    followWith new creating' atLink' place steps = .ok (target, new.at? target) := by
  have passes : ∀ rest : List Text, ¬(creating && !rest.isEmpty && rest.all List.isEmpty) = true →
      ¬(creating' && !rest.isEmpty && rest.all List.isEmpty) = true := by
    intro rest free held
    rw [Bool.and_assoc, Bool.and_eq_true] at held free
    exact free ⟨mild held.1, held.2⟩
  fun_induction followWith old creating atLink place steps with
  | case1 place =>
    obtain ⟨rfl, -⟩ := Prod.mk.inj (Except.ok.inj reached)
    rw [followWith]
  | case2 place step steps entries there blank ih =>
    obtain ⟨later, thereNew⟩ := grown.directory there
    rw [followWith, thereNew]
    dsimp only
    rw [if_pos blank]
    exact ih reached
  | case3 place steps entries there notBlank ih =>
    obtain ⟨later, thereNew⟩ := grown.directory there
    rw [followWith, thereNew]
    dsimp only
    rw [if_neg notBlank, if_pos rfl]
    exact ih reached
  | case6 place step steps entries there notBlank notUp free short missing last =>
    obtain ⟨later, thereNew⟩ := grown.directory there
    obtain ⟨rfl, -⟩ := Prod.mk.inj (Except.ok.inj reached)
    obtain rfl := List.isEmpty_iff.mp last
    rw [followWith_name thereNew notBlank notUp (passes [] free) short]
    split
    · next none => rw [if_pos last, none]
    · next link there => exact absurd there (notLink link)
    · rw [followWith]
  | case8 place step steps entries there notBlank notUp free short link lookup =>
    obtain ⟨later, thereNew⟩ := grown.directory there
    rw [← Entry.at?_append_singleton there] at lookup
    obtain ⟨same, lookupNew, persists⟩ := grown _ _ lookup
    cases persists
    rw [followWith_name thereNew notBlank notUp (passes steps free) short, lookupNew]
    exact linked _ _ reached
  | case9 place step steps entries there notBlank notUp free short below solid lookup ih =>
    obtain ⟨later, thereNew⟩ := grown.directory there
    rw [← Entry.at?_append_singleton there] at lookup
    obtain ⟨same, lookupNew, persists⟩ := grown _ _ lookup
    rw [followWith_name thereNew notBlank notUp (passes steps free) short, lookupNew]
    cases persists with
    | directory => exact ih reached
    | link target => exact absurd rfl (solid target)
    | file => exact ih reached
    | rewrite => exact ih reached
  | case4 | case5 | case7 | case10 => exact absurd reached (by simp)

private theorem follow_extends {touched : Set (List Text)} {old new : Entry}
    (grown : Extends touched old new) {creating creating' : Bool}
    (mild : creating' = true → creating = true) {links : Nat} {place steps target : List Text}
    {found : Option Entry} (notLink : ∀ link, new.at? target ≠ some (.link link))
    (reached : follow old creating links place steps = .ok (target, found)) :
    follow new creating' links place steps = .ok (target, new.at? target) := by
  induction links generalizing place steps with
  | zero =>
    rw [follow] at reached ⊢
    refine followWith_extends grown mild notLink (fun _ _ tooMany => ?_) reached
    exact absurd tooMany (by simp)
  | succ links ih =>
    rw [follow] at reached ⊢
    exact followWith_extends grown mild notLink (fun _ _ => ih) reached

theorem components_ne_nil (path : Text) : Path.components path ≠ [] := by
  rw [Path.components]
  cases path with
  | nil => simp [Text.splitAt]
  | cons c path =>
    rw [Text.splitAt]
    split_ifs
    · simp
    · split <;> simp

/-! ### Operations -/

/-- One file system is another one that has grown, files at some places being rewritten. -/
structure Grows (touched : Set (List Text)) (fs later : FileSystem) : Prop where
  directory_eq : later.directory = fs.directory
  root_extends : Extends touched fs.root later.root

theorem Grows.refl (touched : Set (List Text)) (fs : FileSystem) : Grows touched fs fs :=
  ⟨rfl, Extends.refl touched _⟩

theorem Grows.trans {first second : Set (List Text)} {fs mid later : FileSystem}
    (before : Grows first fs mid) (after : Grows second mid later) :
    Grows (first ∪ second) fs later :=
  ⟨after.directory_eq.trans before.directory_eq, before.root_extends.trans after.root_extends⟩

theorem resolve_landed {fs : FileSystem} {creating : Bool} {path : Text} {place : List Text}
    {found : Option Entry} (reached : fs.resolve creating path = .ok (place, found)) :
    Landed fs.root place found := by
  rw [resolve] at reached
  split at reached
  · exact absurd reached (by simp)
  · exact follow_landed (fun empty => absurd empty (components_ne_nil _)) reached

theorem entry_eq_ok_iff {fs : FileSystem} {path : Text} {found : Entry} :
    fs.entry path = .ok found ↔ ∃ place, fs.resolve false path = .ok (place, some found) := by
  rw [entry]
  cases fs.resolve false path with
  | error cause => simp
  | ok pair =>
    obtain ⟨place, _ | there⟩ := pair
    · simp
    · simp

theorem read_eq_ok_iff {fs : FileSystem} {path : Text} {content : Bytes} :
    fs.read path = .ok content ↔
      ∃ place, fs.resolve false path = .ok (place, some (.file content)) := by
  rw [← entry_eq_ok_iff, read]
  cases fs.entry path with
  | error cause => simp
  | ok found => cases found <;> simp

theorem isDirectory_iff {fs : FileSystem} {path : Text} : fs.isDirectory path = true ↔
    ∃ place entries, fs.resolve false path = .ok (place, some (.directory entries)) := by
  rw [exists_comm]
  simp only [← entry_eq_ok_iff, isDirectory]
  cases fs.entry path with
  | error cause => simp
  | ok found => cases found <;> simp

theorem isFile_iff {fs : FileSystem} {path : Text} :
    fs.isFile path = true ↔ ∃ content, fs.read path = .ok content := by
  rw [isFile, read]
  cases fs.entry path with
  | error cause => simp
  | ok found => cases found <;> simp

theorem isFile_of_isDirectory {fs : FileSystem} {path : Text} (there : fs.isDirectory path = true) :
    fs.isFile path = false := by
  rw [isDirectory] at there
  rw [isFile]
  cases found : fs.entry path with
  | error cause => rfl
  | ok entry => cases entry <;> simp_all

section

variable {touched : Set (List Text)} {fs later : FileSystem} (grown : Grows touched fs later)
  {path : Text}

include grown

theorem Grows.resolve {creating creating' : Bool} (mild : creating' = true → creating = true)
    {place : List Text} {found : Option Entry}
    (notLink : ∀ link, later.root.at? place ≠ some (.link link))
    (reached : fs.resolve creating path = .ok (place, found)) :
    later.resolve creating' path = .ok (place, later.root.at? place) := by
  unfold FileSystem.resolve at reached ⊢
  rw [grown.directory_eq]
  split at reached
  · exact absurd reached (by simp)
  · next none => exact follow_extends grown.root_extends mild notLink reached

theorem Grows.isDirectory (there : fs.isDirectory path = true) : later.isDirectory path = true := by
  obtain ⟨place, entries, reached⟩ := isDirectory_iff.mp there
  obtain ⟨more, found⟩ := grown.root_extends.directory (resolve_landed reached).found_eq.symm
  have notLink : ∀ link, later.root.at? place ≠ some (.link link) := by simp [found]
  refine isDirectory_iff.mpr ⟨place, more, ?_⟩
  rw [grown.resolve id notLink reached, found]

theorem Grows.read {content : Bytes} (before : fs.read path = .ok content)
    (untouched : ∀ place, later.resolve false path = .ok (place, later.root.at? place) →
      place ∉ touched) : later.read path = .ok content := by
  obtain ⟨place, reached⟩ := read_eq_ok_iff.mp before
  have there := (resolve_landed reached).found_eq.symm
  obtain ⟨entry, found, persists⟩ := grown.root_extends place _ there
  have notLink : ∀ link, later.root.at? place ≠ some (.link link) := by
    intro link same
    obtain rfl := Option.some.inj (found.symm.trans same)
    cases persists
  have leads := grown.resolve id notLink reached
  refine read_eq_ok_iff.mpr ⟨place, ?_⟩
  rw [leads, grown.root_extends.file (untouched place leads) there]

end

/-- A file written by a path is where the path leads, for whoever asks, and no other is touched. -/
theorem resolve_write {fs later : FileSystem} {path : Text} {content : Bytes}
    (written : fs.write path content = .ok later) :
    ∃ place, Grows {place} fs later ∧
      ∀ creating, later.resolve creating path = .ok (place, some (.file content)) := by
  cases reached : fs.resolve true path with
  | error cause => simp [write, reached] at written
  | ok pair =>
    obtain ⟨place, found⟩ := pair
    have landed := resolve_landed reached
    obtain ⟨harmless, rfl⟩ : IsHarmless found (.file content) ∧
        { fs with root := Entry.put (.file content) fs.root place } = later := by
      rw [write, reached] at written
      rcases found with _ | (old | link | entries)
      · exact ⟨.inl rfl, Except.ok.inj written⟩
      · exact ⟨.inr ⟨⟨old, rfl⟩, content, rfl⟩, Except.ok.inj written⟩
      · exact absurd rfl (landed.not_link link)
      · exact absurd written (by simp)
    have there := Entry.at?_put (.file content) landed.room
    rw [landed.found_eq] at harmless
    have grown : Grows {place} fs { fs with root := Entry.put (.file content) fs.root place } :=
      ⟨rfl, Entry.extends_put harmless⟩
    refine ⟨place, grown, fun creating => ?_⟩
    have notLink : ∀ link, (Entry.put (.file content) fs.root place).at? place ≠
        some (.link link) := by
      simp [there]
    rw [grown.resolve (fun _ => rfl) notLink reached, there]

theorem read_write {fs later : FileSystem} {path : Text} {content : Bytes}
    (written : fs.write path content = .ok later) : later.read path = .ok content := by
  obtain ⟨place, -, leads⟩ := resolve_write written
  exact read_eq_ok_iff.mpr ⟨place, leads false⟩

theorem read_write_other {fs later : FileSystem} {path other : Text} {content old : Bytes}
    (written : fs.write path content = .ok later) (before : fs.read other = .ok old)
    (apart : later.resolve false other ≠ later.resolve false path) :
    later.read other = .ok old := by
  obtain ⟨place, grown, leads⟩ := resolve_write written
  refine grown.read before fun target reached same => apart ?_
  obtain rfl : target = place := same
  rw [reached, leads false, ← (resolve_landed (leads false)).found_eq]

theorem exists_write_again {fs later : FileSystem} {path : Text} {content : Bytes}
    (written : fs.write path content = .ok later) (more : Bytes) :
    ∃ again, later.write path more = .ok again := by
  obtain ⟨place, -, leads⟩ := resolve_write written
  rw [write, leads true]
  exact ⟨_, rfl⟩

private theorem holder_there {fs : FileSystem} {path name : Text} {place : List Text}
    {entries : List (Text × Entry)} (held : fs.holder path = .ok (place, entries, name)) :
    fs.root.at? place = some (.directory entries) := by
  rw [holder] at held
  split at held
  · exact absurd held (by simp)
  · dsimp only at held
    split at held
    · next reached =>
      obtain ⟨rfl, rest⟩ := Prod.mk.inj (Except.ok.inj held)
      obtain ⟨rfl, -⟩ := Prod.mk.inj rest
      have landed := follow_landed (fun empty => absurd empty (components_ne_nil _)) reached
      exact landed.found_eq.symm
    all_goals exact absurd held (by simp)

private theorem create_grows {fs later : FileSystem} {path : Text} {entry : Entry}
    (created : fs.create path entry = .ok later) : Grows ∅ fs later := by
  rw [create] at created
  split at created
  · next place entries name held =>
    split_ifs at created with _ _ present
    obtain rfl := Except.ok.inj created
    have nothing : fs.root.at? (place ++ [name]) = none := by
      rw [Entry.at?_append_singleton (holder_there held)]
      exact Option.not_isSome_iff_eq_none.mp present
    have grown : Extends {place ++ [name]} fs.root (Entry.put entry fs.root (place ++ [name])) :=
      Entry.extends_put (.inl nothing)
    refine ⟨rfl, fun other old there => ?_⟩
    obtain ⟨later, found, persists⟩ := grown other old there
    refine ⟨later, found, persists.mono fun same => ?_⟩
    obtain rfl : other = place ++ [name] := same
    exact absurd (nothing.symm.trans there) (by simp)
  · exact absurd created (by simp)

theorem makeDirectoriesFrom_preserves {P : FileSystem → Prop}
    (step : ∀ {fs made : FileSystem} {path : Text}, P fs → fs.makeDirectory path = .ok made →
      P made)
    (fuel : Nat) (fs : FileSystem) (path : Text) (before : P fs) :
    P (makeDirectoriesFrom fuel fs path).1 := by
  have above : ∀ {fs ready : FileSystem} {made : FileSystem × Option FileError} {deep : Bool}
      {failure : Option FileError}, (if deep then made else (fs, none)) = (ready, failure) →
      P fs → (P fs → P made.1) → P ready := by
    intro fs ready made deep failure same before ih
    split_ifs at same
    · rw [same] at ih
      exact ih before
    · obtain ⟨rfl, -⟩ := Prod.mk.inj same
      exact before
  fun_induction makeDirectoriesFrom fuel fs path with
  | case1 fs path => exact before
  | case2 _ _ _ _ _ _ _ _ _ same _ _ ih => exact above same before ih
  | case3 _ _ _ _ _ _ _ _ _ same _ _ ih => exact above same before ih
  | case4 _ _ _ _ _ _ _ _ _ same _ _ made created ih => exact step (above same before ih) created
  | case5 _ _ _ _ _ _ _ _ _ same _ _ _ _ ih => exact above same before ih

theorem withDirectories_of_ok {fs made : FileSystem} {path : Text}
    (ready : fs.makeDirectories path = .ok made) : fs.withDirectories path = made := by
  rw [makeDirectories] at ready
  rw [withDirectories]
  split at ready
  · next same =>
    obtain rfl := Except.ok.inj ready
    rw [same]
  · exact absurd ready (by simp)

theorem withDirectories_grows (fs : FileSystem) (path : Text) :
    Grows ∅ fs (fs.withDirectories path) := by
  refine makeDirectoriesFrom_preserves (fun {_ _ _} before made => ?_) _ fs path (Grows.refl ∅ fs)
  have both := before.trans (create_grows made)
  rw [Set.union_empty] at both
  exact both

theorem makeDirectories_grows {fs made : FileSystem} {path : Text}
    (ready : fs.makeDirectories path = .ok made) : Grows ∅ fs made :=
  withDirectories_of_ok ready ▸ withDirectories_grows fs path

end FileSystem

end Outline
