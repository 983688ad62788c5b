import BodyDigest.Proofs.Scanning
import BodyDigest.Proofs.Text.Pieces

/-!
Files in a directory that is entered. A rule whose pattern is one of names hides not only a directory but,
by the same name, each file below it; so a file that no rule speaks of on its own account is listed unless
the last rule that names a directory on the way to it hides. A later rule that shows the directory again
counts for the file only if it, too, is one of names and not restricted to directories.
-/
namespace BodyDigest

namespace IgnoreRule

variable {r : IgnoreRule} {rules : List IgnoreRule} {d q : List Text} {name : Text}

/-- The pattern is tried on single names, not on whole paths. -/
def isOfNames (r : IgnoreRule) : Bool := !(r.anchored || r.hasSlash)

/-- A rule that may speak of files. -/
def concernsFiles (r : IgnoreRule) : Bool := !r.pattern.isEmpty && !r.directoryOnly

/-- What a rule says of a file itself: its pattern is that of the file's name, or of the whole path. -/
def speaksOfFile (r : IgnoreRule) (q : List Text) : Bool :=
  r.concernsFiles &&
    if r.isOfNames then q.getLast?.any (Glob.accepts (Glob.ofText r.pattern))
    else Glob.accepts (Glob.ofText r.pattern) (Path.spelled q)

/-- The rule takes the name of one of the directories. -/
def NamesDirectory (r : IgnoreRule) (d : List Text) : Prop :=
  r.concernsFiles ∧ r.isOfNames ∧ ∃ name ∈ d, Glob.accepts (Glob.ofText r.pattern) name

/-- Of the rules that name one of the directories the last one is there and is not negated. -/
def HiddenByName (rules : List IgnoreRule) (d : List Text) : Prop :=
  ∃ before r after, rules = before ++ r :: after ∧ r.NamesDirectory d ∧
    r.negated = false ∧ ∀ s ∈ after, ¬ s.NamesDirectory d

/-- A name of a file or directory holds no slash. -/
def ArePlain (q : List Text) : Prop := ∀ name ∈ q, Path.slash ∉ name

theorem pieces_spelled (plain : ArePlain q) (some_parts : q ≠ []) :
    pieces (· = Path.slash) (Path.spelled q) = q :=
  pieces_join some_parts plain

theorem accepts_file_iff (plain : ArePlain (d ++ [name])) :
    r.accepts (Path.spelled (d ++ [name])) false ↔
      r.speaksOfFile (d ++ [name]) ∨ r.NamesDirectory d := by
  simp only [accepts, speaksOfFile, NamesDirectory, concernsFiles]
  cases empty : r.pattern.isEmpty with
  | true => simp
  | false =>
    cases restricted : r.directoryOnly with
    | true => simp
    | false =>
      cases names : r.isOfNames with
      | false =>
        rw [isOfNames, Bool.not_eq_false'] at names
        simp [names]
      | true =>
        rw [isOfNames, Bool.not_eq_true'] at names
        have parts := pieces_spelled plain (by simp)
        simp only [names, parts]
        simp [or_comm]

theorem NamesDirectory.accepts (h : r.NamesDirectory d) (plain : ArePlain d) :
    r.accepts (Path.spelled d) true := by
  obtain ⟨concerned, names, name, inside, taken⟩ := h
  have parts := pieces_spelled plain (List.ne_nil_of_mem inside)
  rw [isOfNames, Bool.not_eq_true'] at names
  rw [concernsFiles, Bool.and_eq_true, Bool.not_eq_true', Bool.not_eq_true'] at concerned
  simp only [IgnoreRule.accepts, concerned, names, parts]
  simpa using ⟨name, inside, taken⟩

theorem ignored_file_iff (plain : ArePlain (d ++ [name]))
    (silent : ∀ r ∈ rules, ¬ r.speaksOfFile (d ++ [name])) :
    Ignored rules (Path.spelled (d ++ [name])) false ↔ HiddenByName rules d := by
  have alike (r : IgnoreRule) (stated : r ∈ rules) :
      r.accepts (Path.spelled (d ++ [name])) false ↔ r.NamesDirectory d := by
    rw [accepts_file_iff plain, or_iff_right (silent r stated)]
  constructor
  · rintro ⟨before, r, after, rfl, speaks, positive, quiet⟩
    refine ⟨before, r, after, rfl, (alike r (by simp)).mp speaks, positive, fun s later => ?_⟩
    rw [← alike s (by simp [later]), quiet s later]
    exact Bool.false_ne_true
  · rintro ⟨before, r, after, rfl, speaks, positive, quiet⟩
    refine ⟨before, r, after, rfl, (alike r (by simp)).mpr speaks, positive, fun s later => ?_⟩
    rw [← Bool.not_eq_true, alike s (by simp [later])]
    exact quiet s later

/-- Behind a rule that hides a directory, one that shows it again has to follow. -/
theorem shown_again {before after : List IgnoreRule} {path : Text}
    (whole : rules = before ++ r :: after) (speaks : r.accepts path true) (positive : r.negated = false)
    (shown : ¬ Ignored rules path true) : ∃ s ∈ after, s.accepts path true ∧ s.negated := by
  by_contra none_shows
  have positives : ∀ s ∈ r :: after, s.accepts path true → s.negated = false := by
    intro s stated heard
    rcases List.mem_cons.mp stated with rfl | later
    · exact positive
    · exact Bool.eq_false_iff.mpr fun negated => none_shows ⟨s, later, heard, negated⟩
  cases last : (r :: after).reverse.find? (·.accepts path true) with
  | none =>
    rw [List.find?_eq_none] at last
    exact last r (by simp) speaks
  | some s =>
    obtain ⟨heard, behind, front, split, quiet⟩ := List.find?_eq_some_iff_append.mp last
    rw [List.reverse_eq_iff, List.reverse_append, List.reverse_cons, List.append_assoc,
      List.singleton_append] at split
    refine shown ⟨before ++ front.reverse, s, behind.reverse, ?_, heard, ?_, fun u later => ?_⟩
    · rw [whole, split, List.append_assoc]
    · exact positives s (by simp [split]) heard
    · simpa using quiet u (List.mem_reverse.mp later)

end IgnoreRule

namespace Scan

open BodyDigest.Tree

open IgnoreRule (Ignored ArePlain HiddenByName)

variable {t : Tree} {root : Path} {stated : List IgnoreRule} {d : List Text} {name : Text}
variable {es : List (Text × Tree)} {octets : List UInt8}

/-- The directory and all on the way to it are entered. -/
def LeadsInto (rules : List IgnoreRule) (d : List Text) : Prop :=
  ∀ a, a <+: d → a ≠ [] → ¬ isSkipped a ∧ ¬ Ignored rules (Path.spelled a) true

theorem isShown_iff_kept (leads : LeadsInto stated d) : IsShown stated (d ++ [name]) ↔
    ¬ Ignored stated (Path.spelled (d ++ [name])) false := by
  constructor
  · exact fun shown => shown.kept
  · intro kept
    refine ⟨fun a above some_parts proper => leads a ?_ some_parts, kept⟩
    rcases List.prefix_concat_iff.mp above with whole | inside
    · exact absurd whole proper
    · exact inside

/-- A file in a directory that is entered, of which no rule speaks on its own account, is listed unless
it is hidden by the name of a directory on the way to it. It is listed if each rule that shows the
directory again is one of names that is not restricted to directories. -/
theorem file_of_entered_directory (proper : t.isProper)
    (there : t.look root = .ok (.directory es)) (read : statedRules t root = .ok stated)
    (file : (Tree.directory es).get (d ++ [name]) = .ok (.file octets))
    (plain : ArePlain (d ++ [name])) (leads : LeadsInto stated d)
    (silent : ∀ r ∈ stated, ¬ r.speaksOfFile (d ++ [name])) (asked : Path) :
    ∃ found, files t root asked [] = .ok found ∧
      (d ++ [name] ∈ found ↔ ¬ HiddenByName stated d) ∧
      ((∀ r ∈ stated, r.negated → r.accepts (Path.spelled d) true → r.NamesDirectory d) →
        d ++ [name] ∈ found) := by
  obtain ⟨found, listed, -, mem_iff, -, -⟩ := scan_lists_shown_files proper there read asked []
  have rules : rulesOf stated [] = stated := List.append_nil _
  have listed_iff : d ++ [name] ∈ found ↔ ¬ HiddenByName stated d := by
    rw [mem_iff, and_iff_right ⟨octets, file⟩, rules, isShown_iff_kept leads,
      IgnoreRule.ignored_file_iff plain silent]
  refine ⟨found, listed, listed_iff, fun showing => listed_iff.mpr ?_⟩
  rintro ⟨before, r, after, whole, names, positive, quiet⟩
  have plain_above : ArePlain d := fun n member => plain n (by simp [member])
  have some_parts : d ≠ [] := List.ne_nil_of_mem names.2.2.choose_spec.1
  have shown := (leads d (List.prefix_refl d) some_parts).2
  obtain ⟨s, later, heard, negated⟩ :=
    IgnoreRule.shown_again whole (names.accepts plain_above) positive shown
  exact quiet s later (showing s (by simp [whole, later]) negated heard)

/-! ### A library that is shown again -/

/-- A directory with rules, and a directory in it with one file. -/
def shelfEntries (rules : String) : List (Text × Tree) := [
  (".gitignore", .file (Utf8.encode rules.toList)), ("lib", .directory [("a.py", .file [])])]

def shelf (rules : String) : Tree := .directory (shelfEntries rules)

def lib : List Text := ["lib"]

def libFile : List Text := ["lib", "a.py"]

def libRule : IgnoreRule := ⟨"lib", false, false, false⟩

/-- The two rules say the same of every path. -/
def libShown : IgnoreRule := ⟨"lib", false, false, true⟩

/-- The second rule speaks of directories only. -/
def libShownAsDirectory : IgnoreRule := ⟨"lib", true, false, true⟩

theorem leadsInto_lib {rules : List IgnoreRule}
    (shown : IgnoreRule.hides rules (Path.spelled lib) true = false) : LeadsInto rules lib := by
  intro a above some_parts
  have whole : a = lib := by
    rcases List.prefix_cons_iff.mp above with empty | ⟨rest, rfl, below⟩
    · exact absurd empty some_parts
    · rw [List.prefix_nil.mp below]
      rfl
  subst whole
  rw [← IgnoreRule.hides_iff_ignored, shown]
  exact ⟨by decide +kernel, Bool.false_ne_true⟩

theorem shown_library_is_listed : ∃ found,
    files (shelf "lib\n!lib\n") top top [] = .ok found ∧ libFile ∈ found := by
  have read : statedRules (shelf "lib\n!lib\n") top = .ok [libRule, libShown] := by decide +kernel
  have file : (Tree.directory (shelfEntries "lib\n!lib\n")).get (lib ++ [("a.py" : Text)]) =
      .ok (.file []) := by rfl
  have plain : ArePlain (lib ++ [("a.py" : Text)]) := by
    unfold ArePlain
    decide
  have silent : ∀ r ∈ [libRule, libShown], ¬ r.speaksOfFile (lib ++ [("a.py" : Text)]) := by decide +kernel
  obtain ⟨found, listed, -, shown⟩ := file_of_entered_directory (by decide) rfl read file plain
    (leadsInto_lib (by decide +kernel)) silent top
  refine ⟨found, listed, shown ?_⟩
  intro r stated negated heard
  rcases List.mem_pair.mp stated with rfl | rfl
  · cases negated
  · exact ⟨rfl, rfl, _, List.mem_singleton_self _, by decide +kernel⟩

/-- The library is entered and no rule speaks of the file in it, but the file is not listed. -/
theorem shown_library_stays_empty :
    statedRules (shelf "lib\n!lib/\n") top = .ok [libRule, libShownAsDirectory] ∧
      LeadsInto [libRule, libShownAsDirectory] lib ∧
      (∀ r ∈ [libRule, libShownAsDirectory], ¬ r.speaksOfFile libFile) ∧
      (shelf "lib\n!lib/\n").get libFile = .ok (.file []) ∧
      files (shelf "lib\n!lib/\n") top top [] = .ok [[".gitignore"]] := by
  refine ⟨by decide +kernel, leadsInto_lib (by decide +kernel), by decide +kernel, by rfl, ?_⟩
  decide +kernel

end Scan

end BodyDigest
