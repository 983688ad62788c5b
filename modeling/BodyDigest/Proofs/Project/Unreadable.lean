import BodyDigest.Proofs.Files.Removing
import BodyDigest.Proofs.Project.Effects

/-!
A file that is no module, because its octets are no text or its text is malformed, is passed over: a
project is collected as if the file were not there.
-/
namespace BodyDigest

namespace Traced

variable {α β γ : Type} {f : α → Traced β} {g : β → List γ} {keep : α → Bool} {xs : List α}

theorem flatMap_mapM_cons (f : α → Traced β) (g : β → List γ) (x : α) (xs : List α) :
    ((x :: xs).mapM f).result.map (·.flatMap g) = (f x).result.bind fun b =>
      ((xs.mapM f).result.map (·.flatMap g)).map (g b ++ ·) := by
  rw [List.mapM_cons, result_bind]
  cases (f x).result with
  | error e => rfl
  | ok b =>
    change ((xs.mapM f >>= fun bs => pure (b :: bs)).result).map _ = _
    rw [result_bind]
    cases (xs.mapM f).result with
    | error e => rfl
    | ok bs => exact congrArg Except.ok List.flatMap_cons

/-- What contributes nothing can be left out of a list that is gone through. -/
theorem flatMap_mapM_filter
    (idle : ∀ x ∈ xs, keep x = false → ∃ b, (f x).result = .ok b ∧ g b = []) :
    ((xs.filter keep).mapM f).result.map (·.flatMap g) = (xs.mapM f).result.map (·.flatMap g) := by
  induction xs with
  | nil => rfl
  | cons x xs ih =>
    have later := ih fun y member => idle y (List.mem_cons_of_mem x member)
    rw [flatMap_mapM_cons f g x xs]
    cases kept : keep x with
    | true => rw [List.filter_cons_of_pos kept, flatMap_mapM_cons, later]
    | false =>
      obtain ⟨b, done, nothing⟩ := idle x List.mem_cons_self kept
      rw [List.filter_cons_of_neg (by simp [kept]), later, done]
      change _ = ((xs.mapM f).result.map (·.flatMap g)).map (g b ++ ·)
      rw [nothing]
      cases (xs.mapM f).result <;> rfl

end Traced

namespace Command

variable {w : Workspace} {r : Request} {s : Settings} {root output : Path} {t : Tree}
variable {f parts : List Text} {octets : List UInt8}

/-- A Python file whose octets are no text, or whose text, in which no null character occurs, is no
module. -/
structure IsBroken (t : Tree) (p : Path) (octets : List UInt8) : Prop where
  python : p.suffix = ".py"
  file : t.get p.parts = .ok (.file octets)
  text : ∀ cs, Utf8.decode octets = .ok cs →
    '\x00' ∉ Lines.unify cs ∧ Indented.moduleOf (Lines.unify cs) = .error .malformed

theorem relativeTo_below (root : Path) (parts : List Text) :
    (below root parts).relativeTo root = .ok parts := by
  simp [Path.relativeTo, below]

/-- A file below a directory has a module name, or is known to have none. -/
theorem moduleName_below (root : Path) (named : parts ≠ []) :
    ∃ scope, Indented.moduleName root (below root parts) = .ok scope := by
  have stem : ∃ stems, Indented.stemParts parts = .ok stems := by
    rw [Indented.stemParts, List.getLast?_eq_some_getLast named]
    exact ⟨_, rfl⟩
  obtain ⟨stems, stem⟩ := stem
  rw [Indented.moduleName, relativeTo_below]
  simp only [bind, Except.bind, stem]
  exact ⟨_, rfl⟩

/-- Reading the members of a broken file fails in a way that is passed over. -/
theorem indentedMembers_of_broken {ignoreDocumentation : Bool} (settled : root.IsSettled)
    (plain : Path.upwards ∉ parts) (named : parts ≠ [])
    (broken : IsBroken t (below root parts) octets) :
    Source.indentedMembers t root (below root parts) ignoreDocumentation = .ok none ∨
      ∃ e, Source.indentedMembers t root (below root parts) ignoreDocumentation = .error e ∧
        isPassedOver e := by
  have all_plain : Path.upwards ∉ (below root parts).parts := by
    intro member
    exact (List.mem_append.mp member).elim settled.plain plain
  obtain ⟨scope, module⟩ := moduleName_below root named
  rw [Source.indentedMembers, module]
  cases scope with
  | none => exact .inl rfl
  | some scope =>
    refine .inr ?_
    simp only [Except.mapError, bind, Except.bind, Tree.charsAt, Tree.octetsAt_eq,
      Tree.look_plain all_plain, broken.file, relativeTo_below]
    cases decoded : Utf8.decode octets with
    | error e => exact ⟨_, rfl, rfl⟩
    | ok cs =>
      obtain ⟨no_null, malformed⟩ := broken.text cs decoded
      have source : Indented.sourceChars (Text.ofChars (Lines.unify cs)) = .ok (Lines.unify cs) := by
        simp [Indented.sourceChars, Text.chars?_ofChars, no_null]
      simp only [pure, Except.pure, Indented.members, source, malformed, Except.mapError, bind,
        Except.bind]
      exact ⟨_, rfl, rfl⟩

/-- No source has any descriptor of a broken file. -/
theorem describeFile_of_broken (settled : root.IsSettled) (plain : Path.upwards ∉ parts)
    (named : parts ≠ []) (broken : IsBroken t (below root parts) octets) (source : Source) :
    (describeFile t root parts source).result = .ok [] := by
  rw [describeFile]
  cases source with
  | indented ignoreDocumentation =>
    have wanted : (Source.indented ignoreDocumentation).supports (below root parts) := by
      rw [Source.supports, broken.python]
      rfl
    rw [wanted]
    obtain nothing | ⟨e, failed, passed⟩ :=
      @indentedMembers_of_broken root t parts octets ignoreDocumentation settled plain named broken
    · simp only [Source.found, nothing]
      rfl
    · simp only [Source.found, failed, passed]
      rfl
  | braced defaultScope isActive =>
    have unwanted : (Source.braced defaultScope isActive).supports (below root parts) = false := by
      rw [Source.supports, bracedLanguage?, broken.python, Bool.and_eq_false_iff]
      exact .inr (by decide)
    rw [unwanted]
    rfl
  | plugin => rfl

/-! ### Without the file -/

theorem name_of_lookup {entries : List (Text × Tree)} {name : Text} {v : Tree}
    (proper : Tree.areProper entries) (found : entries.lookup name = some v) :
    name ≠ Path.upwards := by
  induction entries with
  | nil => cases found
  | cons e entries ih =>
    obtain ⟨n, u⟩ := e
    simp only [Tree.areProper, Bool.and_eq_true, decide_eq_true_eq] at proper
    rw [List.lookup_cons] at found
    split at found
    · rename_i same
      rw [beq_iff_eq.mp same]
      exact proper.1.1.1
    · exact ih proper.2 found

/-- A step upwards is the name of nothing. -/
theorem plain_of_get {v : Tree} (proper : t.isProper) (found : t.get parts = .ok v) :
    Path.upwards ∉ parts := by
  induction parts generalizing t with
  | nil => simp
  | cons n parts ih =>
    cases t with
    | file octets =>
      rw [Tree.get_file_cons] at found
      cases found
    | directory entries =>
      obtain ⟨u, held, found⟩ := Tree.get_cons_ok found
      rw [Tree.isProper] at proper
      rw [List.mem_cons, not_or]
      exact ⟨(name_of_lookup proper held).symm, ih (Tree.isProper_lookup proper held) found⟩

variable {excludes : List Text}

/-- The scan of the directory shows all other files. -/
theorem files_remove (settled : root.IsSettled) (proper : w.tree.isProper) (named : f ≠ [])
    (broken : IsBroken w.tree (below root f) octets) :
    ∃ es, w.tree.get root.parts = .ok (.directory es) ∧
      Scan.files (w.tree.remove (below root f).parts) root root excludes =
        (Scan.files w.tree root root excludes).map (·.filter (· ≠ f)) := by
  have file : w.tree.get (root.parts ++ f) = .ok (.file octets) := broken.file
  obtain ⟨es, top⟩ := Tree.directory_of_below file named
  have inside : (Tree.directory es).get f = .ok (.file octets) := by
    rw [Tree.get_append, top] at file
    exact file
  obtain ⟨fs, left⟩ := Tree.remove_directory named es
  have stays : (w.tree.remove (root.parts ++ f)).get root.parts = .ok (.directory fs) :=
    (Tree.get_remove_above top named).trans (congrArg _ left)
  have entries_proper := Tree.isProper_get proper top
  rw [Tree.isProper] at entries_proper
  have rules_plain : Path.upwards ∉ (root.child Scan.ignoreFileName).parts :=
    (settled.child (by decide)).plain
  have apart : ¬ root.parts ++ f <+: (root.child Scan.ignoreFileName).parts := by
    intro above
    obtain ⟨rest, same⟩ : f <+: [Scan.ignoreFileName] := (List.prefix_append_right_inj _).mp above
    have whole : f = [Scan.ignoreFileName] := by
      obtain ⟨n, f, rfl⟩ := List.exists_cons_of_ne_nil named
      simp_all
    have python := broken.python
    rw [whole, Path.suffix, Path.name, below, List.getLast?_concat] at python
    revert python
    decide
  have same := Scan.statedRules_congr (Tree.readsSame_remove file rules_plain apart)
  refine ⟨es, top, ?_⟩
  rw [Scan.files, Scan.files, Tree.look_plain settled.plain, Tree.look_plain settled.plain, top]
  simp only [below, stays, same]
  cases Scan.statedRules w.tree root with
  | error e => rfl
  | ok stated =>
    simp only [Except.mapError, bind, Except.bind, pure, Except.pure, Except.map]
    rw [Scan.shownIn_remove entries_proper inside left, List.nil_append]
    exact congrArg _ (Scan.filter_mergeSort _).symm

theorem collect_result (w : Workspace) (r : Request) (s : Settings) (root output : Path) :
    (collect w r s root output).result =
      ((sourcesOf r s).mapError .discovery).bind fun sources =>
        ((w.settle output).mapError .path).bind fun place =>
          ((Scan.files w.tree root root s.excludes).mapError .scan).bind fun files =>
            ((files.filter fun parts => below root parts ≠ place).mapM fun parts =>
              sources.mapM (describeFile w.tree root parts)).result.map (·.flatMap List.flatten) := by
  have step {α β ε : Type} (cause : ε → CommandError) (e : Except ε α) (f : α → Traced β) :
      (Traced.lift cause e >>= f).result = (e.mapError cause).bind fun a => (f a).result :=
    Traced.result_bind _ _
  rw [collect, step]
  congr 1
  funext sources
  rw [step]
  congr 1
  funext place
  rw [step]
  congr 1
  funext files
  rw [Traced.result_bind]
  change (_ >>= fun found : List (List (List Descriptor)) => (pure _ : Traced _)).result = _
  rw [Traced.result_bind]
  generalize (List.mapM _ _ : Traced (List (List (List Descriptor)))).result = found
  cases found with
  | error e => rfl
  | ok found => exact congrArg Except.ok List.flatten_flatten

theorem mapM_of_nothing {α : Type} {g : α → Traced (List Descriptor)} (xs : List α)
    (nothing : ∀ x, (g x).result = .ok []) :
    ∃ found, (xs.mapM g).result = .ok found ∧ found.flatten = [] := by
  induction xs with
  | nil => exact ⟨[], rfl, rfl⟩
  | cons x xs ih =>
    obtain ⟨found, rest, empty⟩ := ih
    refine ⟨[] :: found, ?_, by rw [List.flatten_cons, empty, List.nil_append]⟩
    rw [List.mapM_cons, Traced.result_bind, nothing x]
    change ((xs.mapM g >>= fun bs => pure ([] :: bs)).result) = _
    rw [Traced.result_bind, rest]
    rfl

/-- The shown files are described alike without the broken one. -/
theorem described_without {files : List (List Text)} {rules : List IgnoreRule}
    {es : List (Text × Tree)} (settled : root.IsSettled) (proper : w.tree.isProper) (named : f ≠ [])
    (broken : IsBroken w.tree (below root f) octets)
    (top : w.tree.get root.parts = .ok (.directory es))
    (shown : ∀ parts ∈ files, parts ∈ Scan.shownIn rules [] es) (sources : List Source) :
    (files.mapM fun parts => sources.mapM (describeFile w.tree root parts)).result.map
        (·.flatMap List.flatten) =
      ((files.filter (· ≠ f)).mapM fun parts => sources.mapM
        (describeFile (w.tree.remove (below root f).parts) root parts)).result.map
          (·.flatMap List.flatten) := by
  have file : w.tree.get (root.parts ++ f) = .ok (.file octets) := broken.file
  have plain : Path.upwards ∉ f := fun member =>
    plain_of_get proper file (List.mem_append_right _ member)
  have kept : w.tree.Kept (fun _ => True) (below root f).parts _ := Tree.remove_kept proper file
  have idle : ∀ parts ∈ files, decide (parts ≠ f) = false →
      ∃ found, (sources.mapM (describeFile w.tree root parts)).result = .ok found ∧
        found.flatten = [] := by
    intro parts _ same
    obtain rfl : parts = f := by simpa using same
    exact mapM_of_nothing sources (describeFile_of_broken settled plain named broken)
  rw [← Traced.flatMap_mapM_filter idle]
  congr 2
  apply Traced.mapM_congr
  intro parts member
  obtain ⟨member, other⟩ := List.mem_filter.mp member
  have apart : root.parts ++ parts ≠ (below root f).parts := by
    simpa [below] using other
  have same := charsAt_below kept settled proper top (shown parts member) apart
  apply Traced.mapM_congr
  intro source _
  exact (describeFile_congr same source).symm

/-- A file that is no module affects nothing: the project is collected as it is without it. -/
theorem broken_file_is_passed_over (settled : root.IsSettled) (proper : w.tree.isProper)
    (named : f ≠ []) (broken : IsBroken w.tree (below root f) octets) :
    (collect w r s root output).result =
      (collect ⟨w.tree.remove (below root f).parts, w.here⟩ r s root output).result := by
  obtain ⟨es, top, scanned⟩ := @files_remove w root f octets s.excludes settled proper named broken
  rw [collect_result, collect_result]
  congr 1
  funext sources
  congr 1
  funext place
  simp only [scanned]
  cases shown : Scan.files w.tree root root s.excludes with
  | error e => rfl
  | ok files =>
    obtain ⟨es', stated, top', read, listed⟩ := Scan.files_ok_iff.mp shown
    rw [Tree.look_plain settled.plain, top] at top'
    cases top'
    have inside : ∀ parts ∈ files.filter fun parts => below root parts ≠ place,
        parts ∈ Scan.shownIn (stated ++ s.excludes.filterMap (IgnoreRule.ofText false)) [] es := by
      intro parts member
      have listed_too := List.mem_of_mem_filter member
      rw [listed] at listed_too
      exact List.mem_mergeSort.mp listed_too
    have same := described_without settled proper named broken top inside sources
    rw [List.filter_comm] at same
    exact same

/-! ### A project with one more file -/

/-- The project of one file with a second one, which holds `source`. -/
def joined (source : String) : Workspace where
  tree := .directory [("project", .directory [
    ("a.py", .file (Utf8.encode "class A:\n    def f(self): return 1\n".toList)),
    ("b.py", .file (Utf8.encode source.toList))])]
  here := home

theorem joined_remove (source : String) :
    (joined source).tree.remove (below home ["b.py"]).parts = project.tree := by
  rfl

theorem halfFunction_isBroken :
    IsBroken (joined "def f(self)\n").tree (below home ["b.py"]) (Utf8.encode "def f(self)\n".toList)
    where
  python := by decide
  file := by rfl
  text := by
    have decoded : Utf8.decode (Utf8.encode "def f(self)\n".toList) = .ok "def f(self)\n".toList := by
      decide +kernel
    intro cs found
    rw [decoded] at found
    cases found
    have failed : (Indented.moduleOf "def f(self)\n".toList).map (fun _ => ()) =
        .error .malformed := by
      decide +kernel
    exact ⟨by decide, error_of_map failed⟩

theorem half_a_function_is_passed_over :
    (collect (joined "def f(self)\n") (request none) projectSettings home
      projectSettings.outputPath).result = .ok [projectMember] := by
  rw [broken_file_is_passed_over ⟨by decide, by decide⟩ (by decide) (by simp) halfFunction_isBroken,
    joined_remove]
  exact project_computed.2 none (by simp)

/-- A project whose one file holds `source`. -/
def alone (source : String) : Workspace where
  tree := .directory [("project", .directory [("b.py", .file (Utf8.encode source.toList))])]
  here := home

/-- A file with a null character ends the collection, which returns without the file. -/
theorem null_character_is_not_passed_over :
    (collect (alone "x = 1\x00\n") (request none) projectSettings home
        projectSettings.outputPath).result =
          .error (.describe (.members (.source .nullCharacter))) ∧
      (collect ⟨(alone "x = 1\x00\n").tree.remove (below home ["b.py"]).parts, home⟩ (request none)
        projectSettings home projectSettings.outputPath).result = .ok [] := by
  decide +kernel

end Command

end BodyDigest
