import BodyDigest.CommandLine.Ending
import BodyDigest.Proofs.Project.Settings
import BodyDigest.Proofs.Project.Unreadable

/-!
How commands fail. Every failure has words on the command line, but for a directory in the place of
a file, values that a file of settings or an old module should not hold, and templates of a user.
-/
namespace BodyDigest

namespace Tree

variable {t : Tree} {p : Path}

/-- Where anything is held, a text is missing only when that is a directory or no text. -/
theorem charsAt_failsBy (held : t.holds p) :
    FailsBy (fun e => (∃ c, e = .encoding c) ∨ (t.holdsDirectory p ∧ e = .access .isDirectory p))
      (t.charsAt p) := by
  intro e failed
  rw [holds] at held
  cases found : t.look p with
  | error c =>
    rw [found] at held
    cases held
  | ok v =>
    rw [charsAt, octetsAt_eq, found] at failed
    cases v with
    | directory es =>
      refine .inr ⟨by rw [holdsDirectory, found]; rfl, ?_⟩
      exact (Except.error.inj failed).symm
    | file octets =>
      change ((Utf8.decode octets).mapError ReadError.encoding >>= fun cs => pure (Lines.unify cs)) = _
        at failed
      cases decoded : Utf8.decode octets with
      | error c =>
        rw [decoded] at failed
        exact .inl ⟨c, (Except.error.inj failed).symm⟩
      | ok cs =>
        rw [decoded] at failed
        cases failed

end Tree

/-! ### Sources, scans and runs -/

namespace Discovery

theorem offer_failsBy (P : Error → Prop) (wanted : Option (List Text)) (found : Found) (name : Text)
    (s : Source) : FailsBy P (offer wanted found name (.ok s)) := by
  rw [offer]
  split
  · exact .ok _
  · exact .ok _

/-- Without entry points only a name can be unknown. -/
theorem sources_failsBy (wanted : Option (List Text)) (ignoreDocumentation : Bool) (scope : Text) :
    FailsBy (fun e => ∃ names, e = .unknown names)
      (sources wanted ignoreDocumentation scope []) := by
  refine FailsBy.bind ?_ fun own _ => FailsBy.bind (.ok _) fun found _ => ?_
  · refine FailsBy.bind ?_ fun first _ => FailsBy.bind ?_ fun second _ => .ok _
    · exact offer_failsBy _ _ _ _ _
    · exact offer_failsBy _ _ _ _ _
  · split
    · exact .ok _
    · exact .error ⟨_, rfl⟩

end Discovery

namespace Emit

theorem emit_built_in_failsBy (root : Text) (r : Registry) :
    FailsBy (fun e => ∃ c, e = .registry c) (emit [] root r) := by
  refine FailsBy.bind ?_ fun s _ => .ok _
  refine FailsBy.bind ?_ fun _ _ => FailsBy.bind ?_ fun _ _ => .ok _
  · exact FailsBy.mapError (fun _ _ => trivial) fun c _ => ⟨c, rfl⟩
  · exact FailsBy.mapError (fun _ _ => trivial) fun c _ => ⟨c, rfl⟩

end Emit

theorem run_failsBy (options : RunOptions) (ds : List Descriptor) :
    FailsBy (fun e => CommandError.ofRun e ∨
      options.templates ≠ [] ∧ ∃ fault, e = .emission (.template fault)) (run options ds) := by
  rw [run]
  split
  · exact .error (.inl rfl)
  · refine FailsBy.bind ?_ fun r _ => FailsBy.bind ?_ fun a _ => .ok _
    · refine FailsBy.bind (FailsBy.bind ?_ fun _ _ => ?_) fun _ _ => ?_
      all_goals exact FailsBy.mapError (fun _ _ => trivial) fun _ _ => .inl rfl
    · by_cases own : options.templates = []
      · rw [own]
        refine (Emit.emit_built_in_failsBy _ _).mapError ?_
        rintro _ ⟨c, rfl⟩
        exact .inl rfl
      · refine FailsBy.mapError (fun _ _ => trivial) fun e _ => ?_
        cases e with
        | registry c => exact .inl rfl
        | template fault => exact .inr ⟨own, fault, rfl⟩

/-! ### Commands -/

namespace Command

/-- Whether an old module is malformed, has a key that cannot be one, or values of another shape. -/
def isMisshapen : Indented.ModuleError → Bool
  | .source .malformed | .value .unhashable => true
  | .mapping .notMapping | .mapping (.missing _) | .mapping .notSequence | .mapping .notText => true
  | _ => false

/-- Failures that a command line has no words for: a directory in the place of the settings, the
rules or the module; a value in the settings or in an old module that cannot be made; a template of
a user that cannot be filled in; something that stands in the way to the module. -/
inductive Unforeseen (w : Workspace) (r : Request) : CommandError → Prop
  | settingsPlace {root f : Path} (place : w.settle r.place = .ok root)
      (file : Settings.file w root = .ok f) (directory : w.tree.holdsDirectory f) :
      Unforeseen w r (.settings (.read (.access .isDirectory f)))
  | settingsValue {root f : Path} {cs : List Char} {fault : Yaml.Fault}
      (place : w.settle r.place = .ok root) (file : Settings.file w root = .ok f)
      (text : w.tree.charsAt f = .ok cs) (loaded : Yaml.load cs = .error fault)
      (kind : fault = .noNumber ∨ fault = .notDate ∨ fault = .noCodePoint true ∨
        ∃ t, fault = .notBool t) : Unforeseen w r (.settings (.badValue fault))
  | rulesPlace {root : Path} (place : w.settle r.place = .ok root)
      (directory : w.tree.holdsDirectory (root.child Scan.ignoreFileName)) :
      Unforeseen w r (.scan (.ignoreFile (.access .isDirectory (root.child Scan.ignoreFileName))))
  | template {root : Path} {s : Settings} {fault : Template.Fault}
      (place : w.settle r.place = .ok root) (settings : Settings.load w root = .ok s)
      (own : s.templates ≠ none) : Unforeseen w r (.run (.emission (.template fault)))
  | modulePlace {root : Path} {s : Settings} (place : w.settle r.place = .ok root)
      (settings : Settings.load w root = .ok s)
      (directory : w.tree.holdsDirectory (targetOf w r s)) :
      Unforeseen w r (.read (.access .isDirectory (targetOf w r s)))
  | moduleValue {root : Path} {s : Settings} {cs : List Char} {fault : Indented.ModuleError}
      (place : w.settle r.place = .ok root) (settings : Settings.load w root = .ok s)
      (text : w.tree.charsAt (targetOf w r s) = .ok cs)
      (loaded : Indented.registryOfModule cs = .error fault) (kind : isMisshapen fault) :
      Unforeseen w r (.registry (targetOf w r s) fault)
  | inTheWay {root p : Path} {s : Settings} {text : Text} {cause : AccessError} {left : Tree}
      (place : w.settle r.place = .ok root) (settings : Settings.load w root = .ok s)
      (failed : writeText w.tree (targetOf w r s) text = .error (.write cause p, left))
      (kind : cause = .occupied ∨ cause = .isDirectory) : Unforeseen w r (.write cause p)

/-- A failure is told by the command line, or is none that it foresees. -/
def IsExplained (w : Workspace) (r : Request) (e : CommandError) : Prop :=
  e.isReported ∨ Unforeseen w r e

variable {w : Workspace} {r : Request} {s : Settings} {root output : Path} {elapsed : Text}

theorem load_failsBy (place : w.settle r.place = .ok root) :
    FailsBy (fun e => IsExplained w r (.settings e)) (Settings.load w root) := by
  refine FailsBy.bind (FailsBy.mapError (fun _ _ => trivial) fun _ _ => .inl rfl) fun f found => ?_
  have file := except_mapError_ok_iff.mp found
  split
  · rename_i held
    refine FailsBy.bind ((Tree.charsAt_failsBy held).mapError ?_) fun cs read => ?_
    · rintro _ (⟨c, rfl⟩ | ⟨directory, rfl⟩)
      · exact .inl rfl
      · exact .inr (.settingsPlace place file directory)
    · refine Settings.ofChars_failsBy.imp ?_
      rintro e (⟨refused, -⟩ | ⟨fault, ⟨-, loaded, other⟩, rfl⟩ | ⟨rfl, -⟩)
      · refine .inl ?_
        cases e with
        | malformed | notMapping | badRootClass | badWorkers => rfl
        | _ => cases refused
      · have unforeseen := Unforeseen.settingsValue place file (except_mapError_ok_iff.mp read) loaded
        cases fault with
        | malformed => exact absurd rfl other
        | badNumber => exact .inl rfl
        | badDate => exact .inl rfl
        | noNumber => exact .inr (unforeseen (by simp))
        | notDate => exact .inr (unforeseen (by simp))
        | notBool t => exact .inr (unforeseen (by simp))
        | noCodePoint tooLarge =>
          cases tooLarge with
          | false => exact .inl rfl
          | true => exact .inr (unforeseen (by simp))
      · exact .inl rfl
  · exact .ok _

theorem files_failsBy (place : w.settle r.place = .ok root) (excludes : List Text) :
    FailsBy (fun e => IsExplained w r (.scan e)) (Scan.files w.tree root root excludes) := by
  rw [Scan.files]
  split
  · exact .error (.inl rfl)
  · exact .error (.inl rfl)
  · refine FailsBy.bind ?_ fun _ _ => .ok _
    refine FailsBy.mapError (P := fun e => IsExplained w r (.scan (.ignoreFile e))) ?_ fun _ h => h
    rw [Scan.statedRules]
    split
    · rename_i held
      refine FailsBy.bind ((Tree.charsAt_failsBy held).imp ?_) fun _ _ => .ok _
      rintro _ (⟨c, rfl⟩ | ⟨directory, rfl⟩)
      · exact .inl rfl
      · exact .inr (.rulesPlace place directory)
    · exact .ok _

theorem bind_failsBy {α β : Type} {P : CommandError → Prop} {x : Traced α} {f : α → Traced β}
    (first : FailsBy P x.result) (later : ∀ a, x.result = .ok a → FailsBy P (f a).result) :
    FailsBy P (x >>= f).result := by
  rw [Traced.result_bind]
  exact first.bind later

theorem mapM_failsBy {α β : Type} {P : CommandError → Prop} {f : α → Traced β} {xs : List α}
    (each : ∀ a, FailsBy P (f a).result) : FailsBy P (xs.mapM f).result := by
  induction xs with
  | nil => exact .ok _
  | cons a xs ih =>
    rw [List.mapM_cons]
    exact bind_failsBy (each a) fun b _ => bind_failsBy ih fun bs _ => .ok _

/-- What is not passed over in a file has words. -/
theorem describeFile_failsBy (t : Tree) (root : Path) (parts : List Text) (source : Source) :
    FailsBy (fun e => e.isReported) (describeFile t root parts source).result := by
  rw [describeFile]
  split
  · exact .ok _
  · split
    · exact .ok _
    · exact .ok _
    · rename_i e _
      split
      · exact .ok _
      · rename_i raised
        refine .error ?_
        cases e with
        | path c => rfl
        | read c => exact absurd rfl raised
        | members c =>
          cases c with
          | source c =>
            cases c with
            | malformed => exact absurd rfl raised
            | loneSurrogate => rfl
            | nullCharacter => rfl
          | render c => rfl
          | slice c => exact absurd rfl raised

theorem sourcesOf_failsBy (given : r.sources = none) (s : Settings) :
    FailsBy (fun e => (CommandError.discovery e).isReported) (sourcesOf r s) := by
  rw [sourcesOf, given]
  refine (Discovery.sources_failsBy _ _ _).imp ?_
  rintro _ ⟨names, rfl⟩
  rfl

theorem collect_failsBy (place : w.settle r.place = .ok root) (given : r.sources = none)
    (s : Settings) (output : Path) :
    FailsBy (IsExplained w r) (collect w r s root output).result := by
  rw [collect_result]
  refine FailsBy.bind ?_ fun sources _ => FailsBy.bind ?_ fun place' _ => FailsBy.bind ?_ fun files _ => ?_
  · exact (sourcesOf_failsBy given s).mapError fun _ h => .inl h
  · exact FailsBy.mapError (fun _ _ => trivial) fun _ _ => .inl rfl
  · exact (files_failsBy place s.excludes).mapError fun _ h => h
  · refine FailsBy.map (mapM_failsBy fun parts => mapM_failsBy fun source => ?_)
    exact (describeFile_failsBy _ _ _ _).imp fun _ h => .inl h

theorem runOn_failsBy (place : w.settle r.place = .ok root)
    (settings : Settings.load w root = .ok s) (ds : List Descriptor) :
    FailsBy (IsExplained w r) (runOn w.tree s elapsed ds).result := by
  refine bind_failsBy ((run_failsBy _ _).mapError ?_) fun o _ => .ok _
  rintro e (told | ⟨own, fault, rfl⟩)
  · exact .inl told
  · refine .inr (.template place settings ?_)
    intro none
    rw [optionsOf, none] at own
    exact own rfl

theorem textAt_failsBy (place : w.settle r.place = .ok root)
    (settings : Settings.load w root = .ok s) :
    FailsBy (fun e => IsExplained w r (.read e)) (textAt w.tree (targetOf w r s)) := by
  rw [textAt]
  split
  · rename_i held
    refine FailsBy.bind ((Tree.charsAt_failsBy held).imp ?_) fun _ _ => .ok _
    rintro _ (⟨c, rfl⟩ | ⟨directory, rfl⟩)
    · exact .inl rfl
    · exact .inr (.modulePlace place settings directory)
  · exact .ok _

theorem writeText_failsBy (t : Tree) (p : Path) (text : Text) :
    FailsBy (fun e => (∃ cause q, e.1 = .write cause q) ∨ ∃ run, e.1 = .unencodable run)
      (writeText t p text) := by
  have filled (octets : List UInt8) : FailsBy
      (fun e : CommandError × Tree => (∃ cause q, e.1 = .write cause q) ∨ ∃ run, e.1 = .unencodable run)
      ((t.write p octets).mapError fun e => (.write e.error e.path, e.left)) :=
    FailsBy.mapError (fun _ _ => trivial) fun _ _ => .inl ⟨_, _, rfl⟩
  rw [writeText]
  split
  · exact filled _
  · exact (filled []).bind fun _ _ => .error (.inr ⟨_, rfl⟩)

theorem store_failsBy (place : w.settle r.place = .ok root)
    (settings : Settings.load w root = .ok s) (text : Text) :
    FailsBy (IsExplained w r) (Traced.store (writeText w.tree (targetOf w r s) text)).result := by
  cases wrote : writeText w.tree (targetOf w r s) text with
  | ok t => exact .ok _
  | error failure =>
    obtain ⟨e, left⟩ := failure
    refine .error ?_
    obtain ⟨cause, p, rfl⟩ | ⟨run, rfl⟩ := writeText_failsBy _ _ _ _ wrote
    · have unforeseen := Unforeseen.inTheWay place settings wrote
      cases cause with
      | missing => exact .inl rfl
      | notDirectory => exact .inl rfl
      | occupied => exact .inr (unforeseen (.inl rfl))
      | isDirectory => exact .inr (unforeseen (.inr rfl))
    · exact .inl rfl

theorem previousAt_failsBy (place : w.settle r.place = .ok root)
    (settings : Settings.load w root = .ok s) :
    FailsBy (IsExplained w r) (previousAt w.tree (targetOf w r s)) := by
  rw [previousAt]
  split
  · rename_i held
    refine FailsBy.bind ((Tree.charsAt_failsBy held).mapError ?_) fun cs read => ?_
    · rintro _ (⟨c, rfl⟩ | ⟨directory, rfl⟩)
      · exact .inl rfl
      · exact .inr (.modulePlace place settings directory)
    · cases loaded : Indented.registryOfModule cs with
      | ok previous => exact .ok _
      | error fault =>
        refine .error ?_
        by_cases misshapen : isMisshapen fault
        · exact .inr (.moduleValue place settings (except_mapError_ok_iff.mp read) loaded misshapen)
        · refine .inl ?_
          revert misshapen
          cases fault with
          | source c => cases c <;> simp [isMisshapen, CommandError.isReported,
              CommandError.ofModule, CommandError.ofSource]
          | noRegistry => simp [CommandError.isReported, CommandError.ofModule]
          | value c => cases c <;> simp [isMisshapen, CommandError.isReported, CommandError.ofModule]
          | mapping c =>
            cases c <;> simp [isMisshapen, CommandError.isReported, CommandError.ofModule]
  · exact .ok _

/-- The first step of every command finds its directory. -/
theorem place_failsBy {α : Type} {g : Path → Traced α}
    (rest : ∀ root, w.settle r.place = .ok root → FailsBy (IsExplained w r) (g root).result) :
    FailsBy (IsExplained w r) (Traced.lift .path (w.settle r.place) >>= g).result := by
  refine bind_failsBy (FailsBy.mapError (fun _ _ => trivial) fun _ _ => .inl rfl) fun root found => ?_
  exact rest root (Traced.lift_ok_iff.mp found)

/-- The next one finds the settings of the directory. -/
theorem settings_failsBy {α : Type} (own : r.settings = none) (place : w.settle r.place = .ok root)
    {g : Settings → Traced α} (rest : ∀ s, Settings.load w root = .ok s →
      FailsBy (IsExplained w r) (g s).result) :
    FailsBy (IsExplained w r) (Traced.lift .settings (settingsFor w r root) >>= g).result := by
  rw [settingsFor, own]
  refine bind_failsBy ((load_failsBy place).mapError fun _ h => h) fun s found => ?_
  exact rest s (Traced.lift_ok_iff.mp found)

theorem say_failsBy {P : CommandError → Prop} {α : Type} {g : Unit → Traced α} {severity : Severity}
    {t : Text} (rest : FailsBy P (g ()).result) : FailsBy P (Traced.say severity t >>= g).result :=
  bind_failsBy (.ok _) fun _ _ => rest

theorem generate_failsBy (own : r.settings = none) (given : r.sources = none) (isDryRun : Bool) :
    FailsBy (IsExplained w r) (generate w elapsed isDryRun r).result := by
  refine place_failsBy fun root place => say_failsBy <| settings_failsBy own place fun s settings => ?_
  refine bind_failsBy (collect_failsBy place given s _) fun ds _ => ?_
  refine bind_failsBy (runOn_failsBy place settings ds) fun o _ => ?_
  refine bind_failsBy ((textAt_failsBy place settings).mapError fun _ h => h) fun old _ => ?_
  split
  · exact .ok _
  · split
    · exact .ok _
    · exact bind_failsBy (store_failsBy place settings _) fun tree _ => .ok _

theorem check_failsBy (own : r.settings = none) (given : r.sources = none) :
    FailsBy (IsExplained w r) (check w elapsed r).result := by
  refine place_failsBy fun root place => settings_failsBy own place fun s settings => ?_
  refine bind_failsBy ((previousAt_failsBy place settings).mapError fun _ h => h) fun previous _ => ?_
  refine bind_failsBy (collect_failsBy place given s _) fun ds _ => ?_
  refine bind_failsBy (runOn_failsBy place settings ds) fun o _ => ?_
  dsimp only
  split
  · exact say_failsBy (.ok _)
  · exact say_failsBy (.ok _)

theorem list_failsBy (own : r.settings = none) (given : r.sources = none) :
    FailsBy (IsExplained w r) (list w elapsed r).result := by
  refine place_failsBy fun root place => settings_failsBy own place fun s settings => ?_
  refine bind_failsBy (collect_failsBy place given s _) fun ds _ => ?_
  exact bind_failsBy (runOn_failsBy place settings ds) fun o _ => .ok _

end Command

namespace CommandLine

open Command (IsExplained Unforeseen)

variable {w : Workspace} {v : Verb} {c : Choices} {elapsed : Text} {ts : List Text}

/-- A command line that ends as it is meant to: the command is done, or a check has found the module
stale, or the failure is told behind the name of the command. -/
inductive IsAnswered (v : Verb) : Ending → Prop
  | done (stdout stderr : Text) (tree : Tree) : IsAnswered v (.exit 0 stdout stderr tree)
  | stale {d : Diff} (isCheck : v = .check) (differs : d.isEmpty = false) (log : Text) (tree : Tree) :
      IsAnswered v (.exit 1 (d.lines.flatMap lineOf)
        (log ++ lineOf "Generated module is stale; run `hashstamp generate`.") tree)
  | failed (log message : Text) (tree : Tree) :
      IsAnswered v (.exit 1 [] (log ++ (lineOf (("hashstamp" : Text) ++ " " ++ v.name ++ " failed: " ++
        message) ++ lineOf "Run with --verbose for more details.")) tree)

theorem ending_of_error {α : Type} {verbose : Bool} {f : α → Shown} {x : Traced α} {e : CommandError}
    (failed : x.result = .error e) : Traced.ending w v verbose f x =
      if e.isReported then
        .exit 1 [] (logText verbose x.log ++ failureText v e) (x.treeAfter w.tree)
      else .escaped (logText verbose x.log) e (x.treeAfter w.tree) := by
  rw [Traced.ending, failed]

/-- The ending of a command whose results are all answered. -/
theorem ending_isAnswered {α : Type} {r : Request} {verbose : Bool} {f : α → Shown} {x : Traced α}
    (explained : FailsBy (IsExplained w r) x.result)
    (shown : ∀ a log, IsAnswered v (.exit (f a).code (f a).stdout (log ++ (f a).stderr) (f a).tree)) :
    IsAnswered v (Traced.ending w v verbose f x) ∨ ∃ stderr e tree,
      Traced.ending w v verbose f x = .escaped stderr e tree ∧ Unforeseen w r e := by
  cases result : x.result with
  | ok a =>
    rw [Traced.ending, result]
    exact .inl (shown a _)
  | error e =>
    rw [ending_of_error result]
    split
    · exact .inl (.failed _ e.message _)
    · rename_i untold
      obtain told | unforeseen := explained e result
      · exact absurd told untold
      · exact .inr ⟨_, e, _, rfl, unforeseen⟩

/-- A project whose module ends in the middle of a statement. -/
def cutShort : Workspace where
  tree := .directory [("project", .directory [
    ("hashstamps.py", .file (Utf8.encode "REGISTRY = (\n".toList))])]
  here := ⟨.top, ["project"]⟩

theorem cutShort_fails : (Command.check cutShort "0" (requestOf {})).result =
    .error (.registry ⟨.top, ["project", "hashstamps.py"]⟩ (.source .malformed)) := by
  decide +kernel

end CommandLine

end BodyDigest
