import Mathlib.Data.List.Basic
import Mathlib.Data.List.DropRight
import Outline.Proofs.FileSystem.Growth
import Outline.Proofs.Text.Basic

/-!
Paths and the names in them.
-/

set_option autoImplicit false

/-! ## Normal paths

A normal path is one or two slashes and proper names with slashes between them. Making a path normal
leaves it alone, and a proper name that is joined to it becomes its last component. The normal form
of every absolute path is of this kind, so a path that has been made absolute stays as it is when it
is made absolute again. A file system is proper if its entries have proper names and its working
directory is an absolute path.
-/

namespace Outline

namespace Path

def isName (name : Text) : Bool :=
  !name.isEmpty && !name.contains slash && decide (name ≠ [dot]) && decide (name ≠ [dot, dot])

def ofNames (slashes : Nat) (names : List Text) : Text :=
  List.replicate slashes slash ++ Text.joinWith [slash] names

def IsNormal (path : Text) : Prop :=
  ∃ slashes names, (slashes = 1 ∨ slashes = 2) ∧ (∀ name ∈ names, isName name = true) ∧
    path = ofNames slashes names

/-! ### Names -/

theorem isName_iff {name : Text} : isName name = true ↔
    name ≠ [] ∧ slash ∉ name ∧ name ≠ [dot] ∧ name ≠ [dot, dot] := by
  simp [isName, and_assoc]

private theorem push_name {rooted : Bool} {before : List Text} {name : Text}
    (proper : isName name = true) :
    push rooted before name = before ++ [name] := by
  obtain ⟨notEmpty, -, notDot, notUp⟩ := isName_iff.mp proper
  rw [push, if_neg (by simp [notEmpty, notDot]), if_neg notUp]

private theorem foldl_push_names {rooted : Bool} {names : List Text}
    (proper : ∀ name ∈ names, isName name = true) (before : List Text) :
    names.foldl (push rooted) before = before ++ names := by
  induction names generalizing before with
  | nil => rw [List.foldl_nil, List.append_nil]
  | cons name names ih =>
    rw [List.foldl_cons, push_name (proper name List.mem_cons_self),
      ih (fun other member => proper other (List.mem_cons_of_mem _ member)), List.append_assoc,
      List.singleton_append]

private theorem foldl_push_replicate_nil (rooted : Bool) (count : Nat) (before : List Text) :
    (List.replicate count []).foldl (push rooted) before = before := by
  induction count with
  | zero => rfl
  | succ count ih =>
    rw [List.replicate_succ, List.foldl_cons, push, if_pos (.inl rfl), ih]

private theorem push_proper {before : List Text} (proper : ∀ name ∈ before, isName name = true)
    {component : Text} (free : slash ∉ component) :
    ∀ name ∈ push true before component, isName name = true := by
  rw [push]
  by_cases blank : component = [] ∨ component = [dot]
  · rw [if_pos blank]
    exact proper
  rw [if_neg blank]
  by_cases up : component = [dot, dot]
  · rw [if_pos up]
    cases last : before.getLast? with
    | none => exact proper
    | some name =>
      have notUp := (isName_iff.mp (proper name (List.mem_of_getLast? last))).2.2.2
      dsimp only
      rw [if_neg notUp]
      exact fun other kept => proper other (List.dropLast_subset before kept)
  · rw [if_neg up]
    intro name member
    rcases List.mem_append.mp member with old | new
    · exact proper name old
    · obtain rfl := List.mem_singleton.mp new
      rw [not_or] at blank
      exact isName_iff.mpr ⟨blank.1, free, blank.2, up⟩

private theorem foldl_push_proper {components before : List Text}
    (proper : ∀ name ∈ before, isName name = true)
    (free : ∀ component ∈ components, slash ∉ component) :
    ∀ name ∈ components.foldl (push true) before, isName name = true := by
  induction components generalizing before with
  | nil => exact proper
  | cons component components ih =>
    rw [List.foldl_cons]
    exact ih (push_proper proper (free component List.mem_cons_self))
      fun other member => free other (List.mem_cons_of_mem _ member)

/-! ### Paths of names -/

section Names

variable {names : List Text} (proper : ∀ name ∈ names, isName name = true)

include proper

theorem components_ofNames (slashes : Nat) : components (ofNames slashes names) =
    List.replicate slashes [] ++ if names = [] then [[]] else names := by
  rw [components, ofNames, Text.splitAt_replicate_append]
  cases names with
  | nil => rfl
  | cons name names =>
    have free : ∀ t ∈ name :: names, slash ∉ t :=
      fun t member => (isName_iff.mp (proper t member)).2.1
    rw [Text.splitAt_joinWith free, if_neg (List.cons_ne_nil _ _)]

private theorem joinWith_ends (notEmpty : names ≠ []) :
    (∃ c rest, Text.joinWith [slash] names = c :: rest ∧ c ≠ slash) ∧
      ∃ rest c, Text.joinWith [slash] names = rest ++ [c] ∧ c ≠ slash := by
  induction names with
  | nil => exact absurd rfl notEmpty
  | cons name names ih =>
    obtain ⟨some, free, -, -⟩ := isName_iff.mp (proper name List.mem_cons_self)
    have first : ∃ c rest, name = c :: rest ∧ c ≠ slash := by
      obtain ⟨c, rest, rfl⟩ := List.exists_cons_of_ne_nil some
      exact ⟨c, rest, rfl, fun same => free (same ▸ List.mem_cons_self)⟩
    cases names with
    | nil =>
      refine ⟨first, name.dropLast, name.getLast some, (List.dropLast_append_getLast some).symm, ?_⟩
      exact fun same => free (same ▸ List.getLast_mem some)
    | cons next names =>
      obtain ⟨-, rest, c, ends, notSlash⟩ :=
        ih (fun other member => proper other (List.mem_cons_of_mem _ member)) (List.cons_ne_nil _ _)
      obtain ⟨b, more, rfl, start⟩ := first
      rw [Text.joinWith_cons_cons]
      refine ⟨⟨b, more ++ [slash] ++ Text.joinWith [slash] (next :: names), rfl, start⟩, ?_⟩
      refine ⟨b :: more ++ [slash] ++ rest, c, ?_, notSlash⟩
      rw [ends, List.append_assoc _ rest]

private theorem takeWhile_ofNames (slashes : Nat) :
    (ofNames slashes names).takeWhile (· = slash) = List.replicate slashes slash := by
  have stops : (Text.joinWith [slash] names).takeWhile (· = slash) = [] := by
    by_cases notEmpty : names = []
    · rw [notEmpty]
      rfl
    · obtain ⟨⟨c, rest, begins, notSlash⟩, -⟩ := joinWith_ends proper notEmpty
      rw [begins, List.takeWhile_cons_of_neg (by simpa using notSlash)]
  rw [ofNames, List.takeWhile_append_of_pos (by simp), stops, List.append_nil]

private theorem leadingSlashes_ofNames {slashes : Nat} (few : slashes = 1 ∨ slashes = 2) :
    leadingSlashes (ofNames slashes names) = slashes := by
  rw [leadingSlashes, takeWhile_ofNames proper, List.length_replicate]
  rcases few with rfl | rfl <;> rfl

private theorem normalize_ofNames {slashes : Nat} (few : slashes = 1 ∨ slashes = 2) :
    normalize (ofNames slashes names) = ofNames slashes names := by
  have kept : (components (ofNames slashes names)).foldl (push (decide (slashes ≠ 0))) [] =
    names := by
    rw [components_ofNames proper, List.foldl_append, foldl_push_replicate_nil]
    split_ifs with empty
    · rw [empty, List.foldl_cons, push, if_pos (.inl rfl), List.foldl_nil]
    · rw [foldl_push_names proper, List.nil_append]
  have notEmpty : (ofNames slashes names).isEmpty = false := by
    rcases few with rfl | rfl <;> rfl
  rw [normalize, leadingSlashes_ofNames proper few, kept, ← ofNames, notEmpty,
    if_neg Bool.false_ne_true]

theorem join_ofNames {slashes : Nat} (some : slashes ≠ 0) {name : Text}
    (named : isName name = true) :
    join (ofNames slashes names) name = ofNames slashes (names ++ [name]) := by
  obtain ⟨notEmpty, free, -, -⟩ := isName_iff.mp named
  have relative : isAbsolute name = false := by
    obtain ⟨c, rest, rfl⟩ := List.exists_cons_of_ne_nil notEmpty
    have notSlash : c ≠ slash := fun same => free (same ▸ List.mem_cons_self)
    simp [isAbsolute, notSlash]
  obtain ⟨count, rfl⟩ := Nat.exists_eq_succ_of_ne_zero some
  rw [join, relative, if_neg Bool.false_ne_true]
  by_cases none : names = []
  · subst none
    have ends : (ofNames (count + 1) []).getLast? = Option.some slash := by
      rw [ofNames, Text.joinWith, List.append_nil, List.replicate_succ', List.getLast?_concat]
    rw [if_pos (by simp [ends]), List.nil_append, ofNames, ofNames, Text.joinWith, List.append_nil,
      Text.joinWith]
  · obtain ⟨-, rest, c, ends, notSlash⟩ := joinWith_ends proper none
    have last : (ofNames (count + 1) names).getLast? = Option.some c := by
      rw [ofNames, ends, ← List.append_assoc, List.getLast?_concat]
    have filled : (ofNames (count + 1) names).isEmpty = false := rfl
    rw [if_neg (by simp [last, filled, notSlash]), ofNames, ofNames, List.append_assoc,
      List.append_assoc]
    refine congrArg (List.replicate (count + 1) slash ++ ·) ?_
    rw [← List.append_assoc]
    exact (Text.joinWith_append_singleton [slash] none name).symm

end Names

/-! ### Normal forms -/

private theorem leadingSlashes_of_isAbsolute {path : Text} (rooted : isAbsolute path = true) :
    leadingSlashes path = 1 ∨ leadingSlashes path = 2 := by
  cases path with
  | nil => exact absurd rooted (by decide)
  | cons c path =>
    obtain rfl : c = slash := by simpa [isAbsolute] using rooted
    rw [leadingSlashes, List.takeWhile_cons_of_pos (by simp), List.length_cons]
    split
    · next none => exact absurd none (Nat.succ_ne_zero _)
    · exact .inr rfl
    · exact .inl rfl

private theorem isNormal_normalize {path : Text} (rooted : isAbsolute path = true) :
    IsNormal (normalize path) := by
  have few := leadingSlashes_of_isAbsolute rooted
  have some : decide (leadingSlashes path ≠ 0) = true := by
    rcases few with one | two <;> simp [*]
  have proper : ∀ name ∈ (components path).foldl (push true) [], isName name = true :=
    foldl_push_proper (fun _ nothing => absurd nothing List.not_mem_nil)
      fun _ member => Text.not_mem_of_mem_splitAt member
  refine ⟨leadingSlashes path, _, few, proper, ?_⟩
  have notEmpty : ∀ names, (ofNames (leadingSlashes path) names).isEmpty = false := by
    intro names
    rcases few with one | two
    · rw [one]
      rfl
    · rw [two]
      rfl
  rw [normalize, some, ← ofNames, notEmpty, if_neg Bool.false_ne_true]

private theorem isAbsolute_join {path : Text} (rooted : isAbsolute path = true) (next : Text) :
    isAbsolute (join path next) = true := by
  cases path with
  | nil => exact absurd rooted (by decide)
  | cons c path =>
    rw [join]
    split_ifs with absolute
    · exact absolute
    · exact rooted
    · exact rooted

private theorem isNormal_absolute {directory : Text} (rooted : isAbsolute directory = true)
    (path : Text) :
    IsNormal (absolute directory path) :=
  isNormal_normalize (isAbsolute_join rooted path)

private theorem IsNormal.isAbsolute {path : Text} (normal : IsNormal path) :
    isAbsolute path = true := by
  obtain ⟨slashes, names, few, -, rfl⟩ := normal
  rcases few with rfl | rfl <;> rfl

theorem IsNormal.absolute_eq {path : Text} (normal : IsNormal path) (directory : Text) :
    absolute directory path = path := by
  rw [absolute, join, if_pos normal.isAbsolute]
  obtain ⟨slashes, names, few, proper, rfl⟩ := normal
  exact normalize_ofNames proper few

theorem IsNormal.join {path : Text} (normal : IsNormal path) {name : Text}
    (proper : isName name = true) : IsNormal (join path name) := by
  obtain ⟨slashes, names, few, others, rfl⟩ := normal
  have some : slashes ≠ 0 := by omega
  refine ⟨slashes, names ++ [name], few, fun other member => ?_, join_ofNames others some proper⟩
  rcases List.mem_append.mp member with old | new
  · exact others other old
  · exact List.mem_singleton.mp new ▸ proper

end Path

/-! ### Proper file systems -/

namespace Entry

mutual

def isProper : Entry → Bool
  | .file _ | .link _ => true
  | .directory entries => areProper entries

/-- Whether all names of entries and below them are proper. -/
def areProper : List (Text × Entry) → Bool
  | [] => true
  | (name, entry) :: entries => Path.isName name && (isProper entry && areProper entries)

end

private theorem isProper_of_lookup? {entries : List (Text × Entry)}
    (proper : areProper entries = true)
    {name : Text} {entry : Entry} (found : lookup? name entries = some entry) :
    entry.isProper = true := by
  induction entries with
  | nil => exact absurd found (by simp [lookup?])
  | cons head entries ih =>
    obtain ⟨other, first⟩ := head
    rw [areProper, Bool.and_eq_true, Bool.and_eq_true] at proper
    rw [lookup?] at found
    split_ifs at found
    · exact Option.some.inj found ▸ proper.2.1
    · exact ih proper.2.2 found

private theorem isProper_of_at? {root entry : Entry} (proper : root.isProper = true)
    {place : List Text} (found : root.at? place = some entry) : entry.isProper = true := by
  induction place generalizing root with
  | nil =>
    rw [at?_nil] at found
    exact Option.some.inj found ▸ proper
  | cons name place ih =>
    cases root with
    | file content => exact absurd found (by simp [at?])
    | link target => exact absurd found (by simp [at?])
    | directory entries =>
      rw [at?_directory_cons] at found
      obtain ⟨below, there, further⟩ := Option.bind_eq_some_iff.mp found
      rw [isProper] at proper
      exact ih (isProper_of_lookup? proper there) further

end Entry

namespace FileSystem

/-- Whether names are proper and the working directory is absolute. -/
def isProper (fs : FileSystem) : Bool := Path.isAbsolute fs.directory && fs.root.isProper

variable {fs : FileSystem} (proper : fs.isProper = true)

include proper

theorem isNormal_absolute (path : Text) : Path.IsNormal (fs.absolute path) :=
  Path.isNormal_absolute (Bool.and_eq_true_iff.mp proper).1 path

theorem absolute_absolute (path : Text) : fs.absolute (fs.absolute path) = fs.absolute path :=
  (isNormal_absolute proper path).absolute_eq fs.directory

theorem isProper_of_entry {path : Text} {found : Entry} (there : fs.entry path = .ok found) :
    found.isProper = true := by
  obtain ⟨place, reached⟩ := entry_eq_ok_iff.mp there
  exact Entry.isProper_of_at? (Bool.and_eq_true_iff.mp proper).2
    (resolve_landed reached).found_eq.symm

end FileSystem

end Outline

/-! ## A file under a new name

A name is new where no link has it and none leads over it. A path without the name then leads to a
place without it, and a path that ends in the name to a place that does. So a file that is written
under a new name leaves every file as it was whose path does not have the name. Making directories
and writing files adds no links, so that a name stays new.
-/

namespace Outline

namespace Path

/-! ### Paths that end in a name -/

private theorem components_append_slash (before after : Text) :
    components (before ++ slash :: after) = components before ++ components after := by
  induction before with
  | nil => rw [List.nil_append, components, Text.splitAt, if_pos rfl]; rfl
  | cons c before ih =>
    unfold components at ih ⊢
    rw [List.cons_append, Text.splitAt, Text.splitAt]
    split_ifs with here
    · rw [ih, List.cons_append]
    · rw [ih]
      cases split : Text.splitAt slash before with
      | nil => exact absurd split (FileSystem.components_ne_nil before)
      | cons piece pieces => rfl

def EndsIn (name path : Text) : Prop := path = name ∨ ∃ above, path = above ++ slash :: name

theorem EndsIn.join {name path : Text} (ends : EndsIn name path) (directory : Text) :
    EndsIn name (join directory path) := by
  unfold Path.join
  split_ifs with absolute plain
  · exact ends
  · rcases ends with rfl | ⟨above, rfl⟩
    · rw [Bool.or_eq_true, decide_eq_true_iff] at plain
      rcases plain with empty | slashed
      · obtain rfl := List.isEmpty_iff.mp empty
        exact .inl rfl
      · obtain ⟨before, rfl⟩ := List.getLast?_eq_some_iff.mp slashed
        exact .inr ⟨before, by rw [List.append_assoc, List.singleton_append]⟩
    · exact .inr ⟨directory ++ above, by rw [List.append_assoc]⟩
  · rcases ends with rfl | ⟨above, rfl⟩
    · exact .inr ⟨directory, by rw [List.append_assoc, List.singleton_append]⟩
    · exact .inr ⟨directory ++ [slash] ++ above, by simp only [List.append_assoc]⟩

private theorem EndsIn.getLast?_components {name path : Text} (free : slash ∉ name)
    (ends : EndsIn name path) : (components path).getLast? = some name := by
  have single : components name = [name] := Text.splitAt_of_not_mem free
  rcases ends with rfl | ⟨above, rfl⟩
  · rw [single, List.getLast?_singleton]
  · rw [components_append_slash, single, List.getLast?_concat]

end Path

namespace Entry

/-! ### Links -/

def HasNoLink (entry : Entry) : Prop := ∀ place target, entry.at? place ≠ some (.link target)

private theorem hasNoLink_file (content : Bytes) : (file content).HasNoLink := by
  intro place target
  cases place <;> simp [at?]

private theorem hasNoLink_empty : (directory []).HasNoLink := by
  intro place target
  cases place <;> simp [at?, lookup?]

private theorem link_of_put {new root : Entry} (none : new.HasNoLink) {place other : List Text}
    {target : Text} (found : (put new root place).at? other = some (.link target)) :
    root.at? other = some (.link target) := by
  fun_induction put new root place generalizing other with
  | case1 root => exact absurd found (none other target)
  | case2 entries name =>
    cases other with
    | nil => exact absurd found (by simp [at?])
    | cons first other =>
      rw [at?_directory_cons, lookup?_insert] at found
      split_ifs at found with same
      · exact absurd found (none other target)
      · rw [at?_directory_cons]
        exact found
  | case3 entries name names _ below there ih =>
    cases other with
    | nil => exact absurd found (by simp [at?])
    | cons first other =>
      rw [at?_directory_cons, lookup?_insert] at found
      rw [at?_directory_cons]
      split_ifs at found with same
      · rw [← same, there]
        exact ih found
      · exact found
  | case4 => exact found
  | case5 => exact found

/-- A name is new among the links: none has it, and none leads over it. -/
def Avoids (root : Entry) (name : Text) : Prop :=
  ∀ place target, root.at? place = some (.link target) →
    place.getLast? ≠ some name ∧ name ∉ Path.components target

private theorem Avoids.put {new root : Entry} {name : Text} (avoids : root.Avoids name)
    (none : new.HasNoLink) (place : List Text) : (Entry.put new root place).Avoids name :=
  fun other target found => avoids other target (link_of_put none found)

mutual

/-- Whether a link here or below has a name or leads over it, where the entry here has a name of its
own. -/
def hasLinkOver (name own : Text) : Entry → Bool
  | .file _ => false
  | .link target => decide (own = name) || (Path.components target).contains name
  | .directory entries => haveLinkOver name entries

/-- Whether a link among entries or below them has a name or leads over it. -/
def haveLinkOver (name : Text) : List (Text × Entry) → Bool
  | [] => false
  | (own, entry) :: entries => hasLinkOver name own entry || haveLinkOver name entries

end

private theorem hasLinkOver_of_lookup? {name own : Text} {entries : List (Text × Entry)}
    {entry : Entry}
    (free : haveLinkOver name entries = false) (found : lookup? own entries = some entry) :
    entry.hasLinkOver name own = false := by
  induction entries with
  | nil => exact absurd found (by simp [lookup?])
  | cons head entries ih =>
    rw [haveLinkOver, Bool.or_eq_false_iff] at free
    rw [lookup?] at found
    split_ifs at found with same
    · rw [← same, ← Option.some.inj found]
      exact free.1
    · exact ih free.2 found

private theorem hasLinkOver_of_at? {name own : Text} {root entry : Entry} {place : List Text}
    (free : root.hasLinkOver name own = false) (found : root.at? place = some entry) :
    entry.hasLinkOver name (place.getLast?.getD own) = false := by
  induction place generalizing root own with
  | nil =>
    rw [at?_nil] at found
    rw [← Option.some.inj found]
    exact free
  | cons first place ih =>
    cases root with
    | file content => exact absurd found (by simp [at?])
    | link target => exact absurd found (by simp [at?])
    | directory entries =>
      rw [at?_directory_cons] at found
      obtain ⟨below, there, further⟩ := Option.bind_eq_some_iff.mp found
      rw [List.getLast?_cons, Option.getD_some]
      exact ih (hasLinkOver_of_lookup? free there) further

theorem avoids_of_hasLinkOver {name : Text} {root : Entry}
    (free : root.hasLinkOver name [] = false) :
    root.Avoids name := by
  intro place target found
  have clear := hasLinkOver_of_at? free found
  rw [hasLinkOver, Bool.or_eq_false_iff, decide_eq_false_iff_not] at clear
  refine ⟨fun last => clear.1 (by rw [last, Option.getD_some]), ?_⟩
  simpa using clear.2

end Entry

namespace FileSystem

/-! ### Where a path without the name leads -/

section

variable {root : Entry} {name : Text} (avoids : root.Avoids name) {creating : Bool}

include avoids

private theorem followWith_without {atLink : List Text → List Text → Reached}
    (linked : ∀ place steps target found, name ∉ place → name ∉ steps →
      atLink place steps = .ok (target, found) → name ∉ target)
    {place steps target : List Text} {found : Option Entry} (here : name ∉ place)
    (ahead : name ∉ steps)
    (reached : followWith root creating atLink place steps = .ok (target, found)) :
    name ∉ target := by
  have further : ∀ {place : List Text} {step : Text} {steps : List Text}, name ∉ place →
      name ∉ step :: steps → name ∉ place ++ [step] := by
    intro place step steps here ahead member
    rcases List.mem_append.mp member with old | new
    · exact here old
    · exact ahead (List.mem_singleton.mp new ▸ List.mem_cons_self)
  fun_induction followWith root creating atLink place steps with
  | case1 place =>
    obtain ⟨rfl, -⟩ := Prod.mk.inj (Except.ok.inj reached)
    exact here
  | case2 place step steps entries there _ ih =>
    exact ih here (List.not_mem_of_not_mem_cons ahead) reached
  | case3 place steps entries there _ ih =>
    exact ih (fun member => here (List.dropLast_subset place member))
      (List.not_mem_of_not_mem_cons ahead) reached
  | case6 place step steps entries there _ _ _ _ missing =>
    obtain ⟨rfl, -⟩ := Prod.mk.inj (Except.ok.inj reached)
    exact further here ahead
  | case8 place step steps entries there _ _ _ _ link lookup =>
    rw [← Entry.at?_append_singleton there] at lookup
    refine linked _ _ target found ?_ ?_ reached
    · split_ifs
      · exact List.not_mem_nil
      · exact here
    · intro member
      rcases List.mem_append.mp member with leading | behind
      · exact (avoids _ link lookup).2 leading
      · exact ahead (List.mem_cons_of_mem step behind)
  | case9 place step steps entries there _ _ _ _ below notLink lookup ih =>
    exact ih (further here ahead) (List.not_mem_of_not_mem_cons ahead) reached
  | case4 | case5 | case7 | case10 => exact absurd reached (by simp)

private theorem follow_without {links : Nat} {place steps target : List Text} {found : Option Entry}
    (here : name ∉ place) (ahead : name ∉ steps)
    (reached : follow root creating links place steps = .ok (target, found)) : name ∉ target := by
  induction links generalizing place steps target found with
  | zero =>
    refine followWith_without avoids (fun _ _ _ _ _ _ impossible => ?_) here ahead reached
    exact absurd impossible (by simp)
  | succ links ih =>
    exact followWith_without avoids (fun _ _ _ _ here ahead further => ih here ahead further) here
      ahead reached

/-! ### Where a path that ends in the name leads -/

private theorem followWith_last (proper : Path.isName name = true)
    {atLink : List Text → List Text → Reached}
    (linked : ∀ place steps target found, steps.getLast? = some name →
      atLink place steps = .ok (target, found) → target.getLast? = some name)
    {place steps target : List Text} {found : Option Entry} (last : steps.getLast? = some name)
    (reached : followWith root creating atLink place steps = .ok (target, found)) :
    target.getLast? = some name := by
  have split : ∀ {step : Text} {steps : List Text}, (step :: steps).getLast? = some name →
      steps = [] ∧ step = name ∨ steps.getLast? = some name := by
    intro step steps last
    cases steps with
    | nil => exact .inl ⟨rfl, Option.some.inj last⟩
    | cons next steps => exact .inr (List.getLast?_cons_cons.symm.trans last)
  -- the last step is always the name, and it is taken as one: it is no dot, and no link has it
  obtain ⟨notEmpty, -, notDot, notUp⟩ := Path.isName_iff.mp proper
  fun_induction followWith root creating atLink place steps with
  | case1 place => exact absurd last (by simp)
  | case2 place step steps entries there blank ih =>
    rcases split last with ⟨-, rfl⟩ | later
    · exact absurd blank (not_or.mpr ⟨notEmpty, notDot⟩)
    · exact ih later reached
  | case3 place steps entries there _ ih =>
    rcases split last with ⟨-, same⟩ | later
    · exact absurd same.symm notUp
    · exact ih later reached
  | case6 place step steps entries there _ _ _ _ missing nothingBehind =>
    obtain ⟨rfl, -⟩ := Prod.mk.inj (Except.ok.inj reached)
    obtain rfl := List.isEmpty_iff.mp nothingBehind
    rw [List.getLast?_concat]
    exact last
  | case8 place step steps entries there _ _ _ _ link lookup =>
    rcases split last with ⟨-, rfl⟩ | later
    · rw [← Entry.at?_append_singleton there] at lookup
      exact absurd List.getLast?_concat (avoids _ link lookup).1
    · refine linked _ _ target found ?_ reached
      rw [List.getLast?_append, later, Option.some_or]
  | case9 place step steps entries there _ _ _ _ below notLink lookup ih =>
    rcases split last with ⟨rfl, rfl⟩ | later
    · rw [followWith] at reached
      obtain ⟨rfl, -⟩ := Prod.mk.inj (Except.ok.inj reached)
      exact List.getLast?_concat
    · exact ih later reached
  | case4 | case5 | case7 | case10 => exact absurd reached (by simp)

private theorem follow_last (proper : Path.isName name = true) {links : Nat}
    {place steps target : List Text} {found : Option Entry} (last : steps.getLast? = some name)
    (reached : follow root creating links place steps = .ok (target, found)) :
    target.getLast? = some name := by
  induction links generalizing place steps target found with
  | zero =>
    refine followWith_last avoids proper (fun _ _ _ _ _ impossible => ?_) last reached
    exact absurd impossible (by simp)
  | succ links ih =>
    exact followWith_last avoids proper (fun _ _ _ _ last further => ih last further) last reached

end

section

variable {fs later : FileSystem} {name path : Text} {creating : Bool} {place : List Text}
  {found : Option Entry}

private theorem resolve_without (avoids : fs.root.Avoids name)
    (absent : name ∉ Path.components (Path.join fs.directory path))
    (reached : fs.resolve creating path = .ok (place, found)) : name ∉ place := by
  rw [resolve] at reached
  split at reached
  · exact absurd reached (by simp)
  · exact follow_without avoids List.not_mem_nil absent reached

private theorem resolve_last (avoids : fs.root.Avoids name) (proper : Path.isName name = true)
    (ends : Path.EndsIn name path) (reached : fs.resolve creating path = .ok (place, found)) :
    place.getLast? = some name := by
  have free := (Path.isName_iff.mp proper).2.1
  rw [resolve] at reached
  split at reached
  · exact absurd reached (by simp)
  · exact follow_last avoids proper ((ends.join fs.directory).getLast?_components free) reached

/-! ### Operations -/

theorem avoids_write (avoids : fs.root.Avoids name) {content : Bytes}
    (written : fs.write path content = .ok later) : later.root.Avoids name := by
  rw [write] at written
  split at written
  · exact absurd written (by simp)
  · obtain rfl := Except.ok.inj written
    exact avoids.put (Entry.hasNoLink_file content) _
  · exact absurd written (by simp)

private theorem avoids_makeDirectory (avoids : fs.root.Avoids name)
    (made : fs.makeDirectory path = .ok later) : later.root.Avoids name := by
  rw [makeDirectory, create] at made
  split at made
  · split_ifs at made
    obtain rfl := Except.ok.inj made
    exact avoids.put Entry.hasNoLink_empty _
  · exact absurd made (by simp)

end

theorem avoids_withDirectories {fs : FileSystem} {name : Text} (avoids : fs.root.Avoids name)
    (path : Text) : (fs.withDirectories path).root.Avoids name :=
  makeDirectoriesFrom_preserves (fun before => avoids_makeDirectory before) _ fs path avoids

/-- A file that is written under a new name leaves every file as it was whose path does not have the
name. -/
theorem read_write_new {fs later : FileSystem} {name path other : Text} {content old : Bytes}
    (avoids : fs.root.Avoids name) (proper : Path.isName name = true) (ends : Path.EndsIn name path)
    (absent : name ∉ Path.components (Path.join fs.directory other))
    (written : fs.write path content = .ok later) (before : fs.read other = .ok old) :
    later.read other = .ok old := by
  have avoidsLater := avoids_write avoids written
  obtain ⟨place, grown, leads⟩ := resolve_write written
  refine grown.read before fun target reached same => ?_
  obtain rfl : target = place := same
  rw [← grown.directory_eq] at absent
  have last := resolve_last avoidsLater proper ends (leads false)
  exact resolve_without avoidsLater absent reached (List.mem_of_getLast? last)

end FileSystem

end Outline

/-! ## The extension of a path

An extension can be looked for in the last component of a path, or in the path as a whole, from the
places of its last slash and its last dot. Both ways find the same, whatever dots stand in the
components: dots before the last slash and dots that the last component begins with start no
extension. A name that is joined to any path becomes the last component, so the path has the
extension of the name.
-/

namespace Outline.Path

/-- The extension of a path, looked for in the path as a whole: what stands from the last dot on, if
something other than dots stands between the last slash and that dot. -/
def scanExtension (path : Text) : Text :=
  let folder := path.rdropWhile (· ≠ slash)
  let stem := (path.rdropWhile (· ≠ dot)).dropLast
  if (stem.drop folder.length).any (· ≠ dot) then path.drop stem.length else []

/-! ### The last occurrence of a code point -/

section Last

variable {c : CodePoint} {rest : Text} (free : c ∉ rest)

include free

private theorem rdropWhile_append_of_not_mem (lead : Text) :
    (lead ++ rest).rdropWhile (· ≠ c) = lead.rdropWhile (· ≠ c) := by
  have passes : ∀ other ∈ rest.reverse, decide (other ≠ c) = true := fun other member =>
    decide_eq_true fun same => free (same ▸ List.mem_reverse.mp member)
  rw [List.rdropWhile, List.reverse_append, List.dropWhile_append_of_pos passes, List.rdropWhile]

private theorem rdropWhile_last (lead : Text) :
    (lead ++ c :: rest).rdropWhile (· ≠ c) = lead ++ [c] := by
  rw [List.append_cons, rdropWhile_append_of_not_mem free,
    List.rdropWhile_concat_neg _ _ _ (by simp)]

private theorem rtakeWhile_last (lead : Text) : (lead ++ c :: rest).rtakeWhile (· ≠ c) = rest := by
  have both : (lead ++ c :: rest).rdropWhile (· ≠ c) ++ (lead ++ c :: rest).rtakeWhile (· ≠ c) =
      lead ++ c :: rest := List.rdropWhile_append_rtakeWhile
  rw [rdropWhile_last free, List.append_assoc, List.singleton_append] at both
  exact (List.cons.inj (List.append_cancel_left both)).2

end Last

private theorem exists_last {c : CodePoint} {t : Text} (member : c ∈ t) :
    ∃ lead rest, t = lead ++ c :: rest ∧ c ∉ rest := by
  obtain ⟨rest, lead, reversed, free⟩ := List.eq_append_cons_of_mem (List.mem_reverse.mpr member)
  refine ⟨lead.reverse, rest.reverse, ?_, fun again => free (List.mem_reverse.mp again)⟩
  rw [← List.reverse_inj, reversed]
  simp

/-! ### The last component -/

private theorem fileName_eq_rtakeWhile (path : Text) :
    fileName path = path.rtakeWhile (· ≠ slash) := rfl

private theorem slash_not_mem_fileName (path : Text) : slash ∉ fileName path := by
  intro member
  have passes := List.mem_rtakeWhile_imp member
  simp at passes

private theorem EndsIn.fileName_eq {name path : Text} (free : slash ∉ name)
    (ends : EndsIn name path) :
    fileName path = name := by
  rcases ends with rfl | ⟨above, rfl⟩
  · rw [fileName_eq_rtakeWhile, List.rtakeWhile_eq_self_iff]
    exact fun c member => decide_eq_true fun same => free (same ▸ member)
  · exact rtakeWhile_last free above

theorem fileName_join {name : Text} (free : slash ∉ name) (folder : Text) :
    fileName (join folder name) = name :=
  EndsIn.fileName_eq free (EndsIn.join (.inl rfl) folder)

/-! ### The extension -/

private theorem nameExtension_of_not_mem {name : Text} (free : dot ∉ name) :
    nameExtension name = [] := by
  have body : dot ∉ name.dropWhile (· = dot) := fun member =>
    free ((List.dropWhile_suffix _).subset member)
  rw [nameExtension, if_neg (by simpa using body)]

private theorem nameExtension_append_dots {dots : Text} (all : ∀ c ∈ dots, c = dot) (t : Text) :
    nameExtension (dots ++ t) = nameExtension t := by
  have passes : ∀ c ∈ dots, decide (c = dot) = true := fun c member => decide_eq_true (all c member)
  rw [nameExtension, List.dropWhile_append_of_pos passes, ← nameExtension]

private theorem nameExtension_last {rest : Text} (free : dot ∉ rest) (stem : Text) :
    nameExtension (stem ++ dot :: rest) = if stem.any (· ≠ dot) then dot :: rest else [] := by
  split_ifs with solid
  · obtain ⟨c, member, different⟩ := List.any_eq_true.mp solid
    have filled : (stem.dropWhile (· = dot)).isEmpty = false := by
      rw [List.isEmpty_eq_false_iff, Ne, List.dropWhile_eq_nil_iff]
      exact fun all => of_decide_eq_true different (of_decide_eq_true (all c member))
    rw [nameExtension, List.dropWhile_append, filled, if_neg Bool.false_ne_true, if_pos (by simp)]
    exact congrArg (dot :: ·) (rtakeWhile_last free _)
  · have all : ∀ c ∈ stem ++ [dot], c = dot := by
      intro c member
      rcases List.mem_append.mp member with before | last
      · by_contra different
        exact solid (List.any_eq_true.mpr ⟨c, before, decide_eq_true different⟩)
      · exact List.mem_singleton.mp last
    rw [List.append_cons, nameExtension_append_dots all, nameExtension_of_not_mem free]

private theorem scanExtension_append {name folder : Text}
    (last : folder.rdropWhile (· ≠ slash) = folder)
    (free : slash ∉ name) : scanExtension (folder ++ name) = nameExtension name := by
  rw [scanExtension, rdropWhile_append_of_not_mem free, last]
  by_cases dotted : dot ∈ name
  · obtain ⟨stem, rest, rfl, undotted⟩ := exists_last dotted
    rw [← List.append_assoc, rdropWhile_last undotted, List.dropLast_concat, List.drop_left,
      List.drop_left, nameExtension_last undotted]
  · have short : (folder.rdropWhile (· ≠ dot)).dropLast.length ≤ folder.length :=
      ((List.dropLast_prefix _).trans (List.rdropWhile_prefix _ _)).length_le
    rw [rdropWhile_append_of_not_mem dotted, List.drop_eq_nil_of_le short, List.any_nil,
      if_neg Bool.false_ne_true, nameExtension_of_not_mem dotted]

/-- Looking through the whole path finds the extension of the last component. -/
theorem scanExtension_eq (path : Text) : scanExtension path = extension path := by
  have whole : path.rdropWhile (· ≠ slash) ++ path.rtakeWhile (· ≠ slash) = path :=
    List.rdropWhile_append_rtakeWhile
  have scanned := scanExtension_append (List.rdropWhile_idempotent (· ≠ slash) path)
    (slash_not_mem_fileName path)
  rwa [fileName_eq_rtakeWhile, whole] at scanned

example : scanExtension "/v.1/..cs" = [] ∧ scanExtension "/v.1/.h.cs" = Text.ofString ".cs" := by
  decide

theorem extension_join {name : Text} (free : slash ∉ name) (folder : Text) :
    extension (join folder name) = nameExtension name := by
  rw [extension, fileName_join free]

theorem extension_fileName (path : Text) : extension (fileName path) = extension path := by
  rw [extension, EndsIn.fileName_eq (slash_not_mem_fileName path) (.inl rfl), ← extension]

end Outline.Path
