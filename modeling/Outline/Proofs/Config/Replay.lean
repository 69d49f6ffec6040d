import Mathlib.Data.Finset.Dedup
import Mathlib.Data.List.DropRight
import Outline.Proofs.Config.Strictness
import Outline.Proofs.Text.Basic

/-!
Options that are reported can be read again.

What a configuration gives for a list of texts is a set of entries: texts without blanks at their
ends, none of them empty, in increasing order. Such a set is read back as it is, with no problem met
on the way, so options that were read from any configuration, reported as plain data and read again
are the same options. The set holds the entries of the configured list and nothing else of it:
neither the order of the items nor how often they come nor the blanks around them.
-/

set_option autoImplicit false

namespace Outline

/-! ### Texts without blanks at their ends -/

namespace Text

private theorem dropWhile_of_prefix {drop : CodePoint → Bool} {t lead : Text}
    (isPrefix : lead <+: t) (kept : t.dropWhile drop = t) : lead.dropWhile drop = lead := by
  cases lead with
  | nil => rfl
  | cons c lead =>
    obtain ⟨rest, rfl⟩ := isPrefix
    have first : ¬drop c = true := List.dropWhile_eq_self_iff.mp kept (Nat.zero_lt_succ _)
    exact List.dropWhile_cons_of_neg first

private theorem trim_trim (drop : CodePoint → Bool) (t : Text) :
    (t.trim drop).trim drop = t.trim drop := by
  have trimmed (u : Text) : u.trim drop = (u.dropWhile drop).rdropWhile drop := rfl
  rw [trimmed t, trimmed, dropWhile_of_prefix (List.rdropWhile_prefix _ _)
    (List.dropWhile_idempotent _ _), List.rdropWhile_idempotent]

private theorem strip_strip (t : Text) : t.strip.strip = t.strip := trim_trim _ t

end Text

namespace Logged

variable {ε α β : Type}

private theorem pure_bind (a : α) (next : α → Logged ε β) : (Pure.pure a >>= next) = next a := rfl

private theorem exists_ok_of_bind_ok {work : Logged ε α} {next : α → Logged ε β} {b : β}
    (ok : (work >>= next).result = .ok b) : ∃ a, work.result = .ok a ∧ (next a).result = .ok b := by
  rw [result_bind] at ok
  cases result : work.result with
  | error failure =>
    rw [result] at ok
    cases ok
  | ok a =>
    rw [result] at ok
    exact ⟨a, rfl, ok⟩

end Logged

namespace Config

open Logged (exists_ok_of_bind_ok)

/-- The entries that a list of texts may come to: increasing, none of them empty, and none with a
blank at its ends. -/
structure IsEntrySet (entries : List Text) : Prop where
  sorted : entries.Pairwise (List.Lex (· < ·))
  tidy : ∀ entry ∈ entries, entry ≠ [] ∧ entry.strip = entry

private theorem tidy_of_entryOf? {parts : Datum.Parts} {item : Datum} {entry : Text}
    (found : entryOf? parts item = some entry) : entry ≠ [] ∧ entry.strip = entry := by
  obtain ⟨stripped, notEmpty⟩ := Option.filter_eq_some_iff.mp found
  obtain ⟨text, -, rfl⟩ := Option.map_eq_some_iff.mp stripped
  exact ⟨by simpa using notEmpty, Text.strip_strip text⟩

private theorem isEntrySet_set {entries : List Text}
    (tidy : ∀ entry ∈ entries, entry ≠ [] ∧ entry.strip = entry) :
    IsEntrySet (Text.set entries) :=
  ⟨Text.set_pairwise_lex entries, fun entry member => tidy entry (Text.mem_set_iff.mp member)⟩

private theorem isEntrySet_of_entriesAt? {s : Section} {key : Text} {default : List Text}
    (ofDefault : IsEntrySet default) :
      IsEntrySet (((entriesAt? s key).map Text.set).getD default) := by
  rw [entriesAt?]
  cases itemsAt? s key with
  | none => exact ofDefault
  | some items =>
    refine isEntrySet_set fun entry member => ?_
    obtain ⟨item, -, found⟩ := List.mem_filterMap.mp member
    exact tidy_of_entryOf? found

/-! ### Readings that return -/

private theorem Settles.eq_of_ok {α : Type} {read : Bool → Logged Failure α} {value other : α}
    {problems : List Problem} (settles : Settles read value problems) {strict : Bool}
    (ok : (read strict).result = .ok other) : other = value := by
  cases strict with
  | false => exact Except.ok.inj (ok.symm.trans settles.lenient)
  | true =>
    rw [settles.strict] at ok
    cases problems with
    | nil => exact (Except.ok.inj ok).symm
    | cons p rest => cases ok

section Entries

variable {parts : Datum.Parts} {key : Text} {strict : Bool} {item : Datum} {items : List Datum}

private theorem ofExcept_display {text : Text} (shown : item.display parts = .ok text) :
    Logged.ofExcept ((item.display parts).mapError Failure.number) = pure text := by
  rw [shown]
  rfl

private theorem getEntries_of_blank {text : Text} (shown : item.display parts = .ok text)
    (blank : text.strip = []) :
    getEntries parts key strict (item :: items) =
      (problem strict (Problem.blank key).message (Problem.blank key).fallback >>= fun _ =>
        getEntries parts key strict items) := by
  rw [getEntries, ofExcept_display shown, Logged.pure_bind, blank]
  rfl

private theorem getEntries_of_entry {text entry : Text} (shown : item.display parts = .ok text)
    (stripped : text.strip = entry) (notEmpty : entry ≠ []) :
    getEntries parts key strict (item :: items) =
      (getEntries parts key strict items >>= fun entries => pure (entry :: entries)) := by
  obtain ⟨c, t, rfl⟩ := List.exists_cons_of_ne_nil notEmpty
  rw [getEntries, ofExcept_display shown, Logged.pure_bind, stripped]

private theorem displayable_of_getEntries {entries : List Text}
    (ok : (getEntries parts key strict items).result = .ok entries) :
    ∀ item ∈ items, (item.display parts).isOk = true := by
  induction items generalizing entries with
  | nil => exact fun _ member => absurd member List.not_mem_nil
  | cons item items ih =>
    cases shown : item.display parts with
    | error flaw =>
      rw [getEntries, shown] at ok
      cases ok
    | ok text =>
      refine List.forall_mem_cons.mpr ⟨by rw [shown]; rfl, ?_⟩
      by_cases blank : text.strip = []
      · rw [getEntries_of_blank shown blank] at ok
        obtain ⟨-, -, rest⟩ := exists_ok_of_bind_ok ok
        exact ih rest
      · rw [getEntries_of_entry shown rfl blank] at ok
        obtain ⟨more, rest, -⟩ := exists_ok_of_bind_ok ok
        exact ih rest

end Entries

private theorem isDisplayableAt_of_getTextSet {s : Section} {key : Text}
    {default entries : List Text}
    {strict : Bool} (ok : (getTextSet s key default strict).result = .ok entries) :
    isDisplayableAt s key = true := by
  unfold getTextSet at ok
  unfold isDisplayableAt itemsAt?
  cases found : s.get? key with
  | none => rfl
  | some datum =>
    rw [found] at ok
    cases datum with
    | list items =>
      obtain ⟨more, read, -⟩ := exists_ok_of_bind_ok ok
      exact List.all_eq_true.mpr (displayable_of_getEntries read)
    | _ => rfl

/-! ### Plain data as a configuration -/

private theorem resolve_ofValue (parts : Datum.Parts) (value : Value) :
    (Datum.ofValue value).resolve parts = Datum.ofValue value := by
  cases value <;> simp only [Datum.ofValue, Datum.resolve]

private theorem get?_ofFields_self (key : Text) (value : Value) (fields : List (Text × Value)) :
    (Section.ofFields ((key, value) :: fields)).get? key = some (Datum.ofValue value) := by
  rw [Section.get?, Section.ofFields, Datum.ofFields, Datum.lookup?, Scalar.sameKey,
    if_pos (decide_eq_true rfl), Option.map_some, resolve_ofValue]

private theorem get?_ofFields_of_ne {key other : Text} (different : key ≠ other) (value : Value)
    (fields : List (Text × Value)) :
    (Section.ofFields ((key, value) :: fields)).get? other =
      (Section.ofFields fields).get? other := by
  rw [Section.get?, Section.ofFields, Datum.ofFields, Datum.lookup?, Scalar.sameKey,
    if_neg (by simpa using different), Section.get?, Section.ofFields]

private theorem ofItems_texts (texts : List Text) :
    Datum.ofItems (texts.map .text) = texts.map fun t => .scalar (.text t) := by
  induction texts with
  | nil => rw [List.map_nil, Datum.ofItems, List.map_nil]
  | cons t texts ih => rw [List.map_cons, Datum.ofItems, Datum.ofValue, ih, List.map_cons]

private theorem getEntries_texts (parts : Datum.Parts) (key : Text) (strict : Bool)
    {texts : List Text} (tidy : ∀ t ∈ texts, t ≠ [] ∧ t.strip = t) :
    getEntries parts key strict (texts.map fun t => .scalar (.text t)) = pure texts := by
  induction texts with
  | nil => rfl
  | cons t texts ih =>
    obtain ⟨⟨notEmpty, stripped⟩, later⟩ := List.forall_mem_cons.mp tidy
    rw [List.map_cons, getEntries_of_entry rfl stripped notEmpty, ih later, Logged.pure_bind]

private theorem getTextSet_of_isEntrySet {s : Section} {key : Text} {entries : List Text}
    (isSet : IsEntrySet entries)
    (found : s.get? key = some (Datum.ofValue (.list (entries.map .text)))) (default : List Text)
    (strict : Bool) : getTextSet s key default strict = pure entries := by
  rw [getTextSet, found, Datum.ofValue, ofItems_texts]
  change (getEntries s.parts key strict _ >>= fun entries => pure (Text.set entries)) = _
  rw [getEntries_texts s.parts key strict isSet.tidy, Logged.pure_bind,
    Text.set_of_pairwise_lex isSet.sorted]

end Config

namespace Options

open Config
open Logged (exists_ok_of_bind_ok)

private theorem isDisplayable_of_ofConfig {config : Section} {strict : Bool} {o : Options}
    (returned : (ofConfig config strict).result = .ok o) : isDisplayable config = true := by
  obtain ⟨s, gotSection, returned⟩ := exists_ok_of_bind_ok returned
  obtain ⟨legacy, -, returned⟩ := exists_ok_of_bind_ok returned
  obtain ⟨extensions, first, returned⟩ := exists_ok_of_bind_ok returned
  obtain ⟨excluded, second, -⟩ := exists_ok_of_bind_ok returned
  obtain rfl : s = sectionOf config := (settles_getSection config "extraction").eq_of_ok gotSection
  rw [isDisplayable, Bool.and_eq_true]
  exact ⟨isDisplayableAt_of_getTextSet first, isDisplayableAt_of_getTextSet second⟩

/-- A reading of options returns, in either mode, only what the configuration declares. -/
theorem eq_declared_of_ofConfig {config : Section} {strict : Bool} {o : Options}
    (returned : (ofConfig config strict).result = .ok o) : o = declared config :=
  (settles_ofConfig (isDisplayable_of_ofConfig returned)).eq_of_ok returned

/-! ### Options read again -/

/-- Whether the lists of options are sets of entries. -/
structure IsNormal (o : Options) : Prop where
  extensions : IsEntrySet o.extensions
  excludedDirectories : IsEntrySet o.excludedDirectories

private theorem isNormal_default : default.IsNormal where
  extensions := isEntrySet_set (by decide)
  excludedDirectories := isEntrySet_set (by decide)

private theorem isNormal_declared (config : Section) : (declared config).IsNormal where
  extensions := isEntrySet_of_entriesAt? isNormal_default.extensions
  excludedDirectories := isEntrySet_of_entriesAt? isNormal_default.excludedDirectories

def reported (o : Options) : Section := .ofFields [("extraction", o.toValue)]

private theorem getSection_reported (o : Options) (strict : Bool) :
    getSection o.reported "extraction" strict = pure (.ofFields o.fields) := by
  rw [getSection, reported, get?_ofFields_self, toValue, Datum.ofValue]
  rfl

private theorem ofConfig_reported {o : Options} (normal : o.IsNormal) (strict : Bool) :
    ofConfig o.reported strict = pure o := by
  have legacy : getBool (.ofFields o.fields) "legacy_scoping" default.legacyScoping strict =
      pure o.legacyScoping := by
    rw [getBool, getBool?, fields, get?_ofFields_self, Datum.ofValue]
    rfl
  have extensions : getTextSet (.ofFields o.fields) "extensions" default.extensions strict =
      pure o.extensions := by
    refine getTextSet_of_isEntrySet normal.extensions ?_ _ _
    rw [fields, get?_ofFields_of_ne (by decide), get?_ofFields_self]
  have excluded :
      getTextSet (.ofFields o.fields) "exclude_dirs" default.excludedDirectories strict =
        pure o.excludedDirectories := by
    refine getTextSet_of_isEntrySet normal.excludedDirectories ?_ _ _
    rw [fields, get?_ofFields_of_ne (by decide), get?_ofFields_of_ne (by decide),
      get?_ofFields_self]
  rw [ofConfig, getSection_reported, Logged.pure_bind, legacy, Logged.pure_bind, extensions,
    Logged.pure_bind, excluded, Logged.pure_bind]

/-! ### What options depend on -/

private theorem map_set_eq_of_toFinset {entries others : Option (List Text)}
    (same : entries.map List.toFinset = others.map List.toFinset) :
    entries.map Text.set = others.map Text.set := by
  cases entries with
  | none =>
    rw [Option.map_none, eq_comm, Option.map_eq_none_iff] at same
    rw [same]
  | some entries =>
    rw [Option.map_some, eq_comm, Option.map_eq_some_iff] at same
    obtain ⟨others, rfl, equal⟩ := same
    rw [Option.map_some, Option.map_some, Text.set_eq_of_mem_iff fun t => ?_]
    rw [← List.mem_toFinset, ← equal, List.mem_toFinset]

/-- The set of the entries of the configured list at a key, if there is a list. -/
def entrySetAt? (config : Section) (key : Text) : Option (Finset Text) :=
  (entriesAt? (sectionOf config) key).map List.toFinset

/-- Options that are read from a configuration hold entries that are not empty and have no blanks at
their ends. Read again, in either mode, the options that they report are the same ones, and there is
no event, so no warning. Each of their fields depends only on what is configured for it, and on a
list only by the set of its entries: the fields of any other options that are read are the same if
these are. -/
theorem reported_options_replay (config : Section) (strict : Bool) (o : Options)
    (returned : (ofConfig config strict).result = .ok o) :
    (∀ entry ∈ o.extensions ++ o.excludedDirectories, entry ≠ [] ∧ entry.strip = entry) ∧
    (∀ mode, ofConfig (.ofFields [("extraction", o.toValue)]) mode = ⟨.ok o, []⟩) ∧
    ∀ (other : Section) (otherStrict : Bool) (p : Options),
      (ofConfig other otherStrict).result = .ok p →
      (truthAt? (sectionOf config) "legacy_scoping" = truthAt? (sectionOf other) "legacy_scoping" →
        o.legacyScoping = p.legacyScoping) ∧
      (entrySetAt? config "extensions" = entrySetAt? other "extensions" →
        o.extensions = p.extensions) ∧
      (entrySetAt? config "exclude_dirs" = entrySetAt? other "exclude_dirs" →
        o.excludedDirectories = p.excludedDirectories) := by
  have normal : o.IsNormal := eq_declared_of_ofConfig returned ▸ isNormal_declared config
  refine ⟨?_, ofConfig_reported normal, ?_⟩
  · intro entry member
    rcases List.mem_append.mp member with extension | directory
    · exact normal.extensions.tidy entry extension
    · exact normal.excludedDirectories.tidy entry directory
  · intro other otherStrict p returnedToo
    rw [eq_declared_of_ofConfig returned, eq_declared_of_ofConfig returnedToo]
    refine ⟨fun same => ?_, fun same => ?_, fun same => ?_⟩
    · rw [declared, declared, same]
    · rw [declared, declared, map_set_eq_of_toFinset same]
    · rw [declared, declared, map_set_eq_of_toFinset same]

/-- Extensions out of order, with one of them twice, blanks around two and a blank item. -/
def scrambled : Section :=
  .ofFields [("extraction", .record [("extensions",
    .list [.text ".h", .text " .cs", .text ".h\t", .text " "])])]

def orderly : Section :=
  .ofFields [("extraction", .record [("extensions", .list [.text ".cs", .text ".h"])])]

/-- The lenient reading of the one configuration gives what the strict reading of the other one
gives, and that can be read again. -/
theorem reported_options_scrambled :
    ∃ o p : Options, (ofConfig scrambled false).result = .ok o ∧
      (ofConfig orderly true).result = .ok p ∧
      o.extensions = [Text.ofString ".cs", Text.ofString ".h"] ∧ o = p ∧
      ofConfig (.ofFields [("extraction", o.toValue)]) true = ⟨.ok o, []⟩ := by
  have lenient : (ofConfig scrambled false).result = .ok (declared scrambled) :=
    (settles_ofConfig (by decide)).lenient
  have strict : (ofConfig orderly true).result = strictly (declared orderly) (problems orderly) :=
    (settles_ofConfig (by decide)).strict
  have noProblem : problems orderly = [] :=
    List.map_eq_nil_iff.mp (show (problems orderly).map Problem.warning = [] by decide)
  rw [noProblem, strictly] at strict
  obtain ⟨-, again, depends⟩ := reported_options_replay scrambled false _ lenient
  obtain ⟨sameScoping, sameExtensions, sameDirectories⟩ := depends orderly true _ strict
  have same : declared scrambled = declared orderly := by
    rw [declared, declared, Options.mk.injEq]
    exact ⟨sameScoping (by decide), sameExtensions (by decide),
      sameDirectories (by decide)⟩
  exact ⟨_, _, lenient, strict, by decide, same, again true⟩

end Options

end Outline
