import BodyDigest.Proofs.Files.Writing
import BodyDigest.Proofs.Results
import BodyDigest.Settings

/-!
Which texts state settings: blank ones, those of null, and mappings whose root class is an identifier and
whose number of workers is positive. Others are refused, except that any value that counts as nothing is
taken for an empty mapping. A value that cannot be made, and an integer that is too long to be written
where a text is wanted, end the reading otherwise.
-/
namespace BodyDigest

namespace Yaml.Value

/-- An integer with more digits than are written. -/
def isLong : Value → Bool
  | .integer n => Numeral.maxDigits < (Nat.toDigits 10 n.natAbs).length
  | _ => false

/-- A value that counts as nothing without being null or a mapping. -/
def isHollow : Value → Bool
  | .null | .mapping _ => false
  | v => v.isEmpty

end Yaml.Value

namespace Settings

open Yaml (Value Loaded)

variable {l : Loaded} {entries : Entries} {key : Text} {root : Path} {v : Value}

/-! ### Values -/

/-- What a text or a number is written as. -/
def shown : Value → Option Text
  | .text t => some t
  | .integer n => some (Text.ofInt n)
  | .real x => some (realText x)
  | _ => none

theorem textOf_eq (v : Value) : textOf v = if v.isLong then .error .tooManyDigits else .ok (shown v) := by
  cases v with
  | integer n =>
    simp only [textOf, integerText, Value.isLong, decide_eq_true_eq]
    split <;> rfl
  | _ => rfl

/-- What is behind a key is a long integer. -/
def IsLongBehind (l : Loaded) (entries : Entries) (key : Text) : Prop :=
  ∃ v ∈ l.entry? entries key, v.isLong

instance (l : Loaded) (entries : Entries) (key : Text) : Decidable (IsLongBehind l entries key) :=
  inferInstanceAs (Decidable (∃ v ∈ l.entry? entries key, v.isLong))

def itemsOf : Option Value → List Value
  | some (.list items) => items
  | _ => []

/-- What is behind a key is a list with a long integer in it. -/
def HoldsLong (l : Loaded) (entries : Entries) (key : Text) : Prop :=
  ∃ i ∈ itemsOf (l.entry? entries key), (l.follow i).isLong

instance (l : Loaded) (entries : Entries) (key : Text) : Decidable (HoldsLong l entries key) :=
  inferInstanceAs (Decidable (∃ i ∈ itemsOf (l.entry? entries key), (l.follow i).isLong))

theorem givenText_ok_iff {t : Option Text} : givenText l entries key = .ok t ↔
    ¬ IsLongBehind l entries key ∧ ((l.entry? entries key).bind shown).filter (!·.isEmpty) = t := by
  unfold givenText IsLongBehind
  cases l.entry? entries key with
  | none => simp [pure, Except.pure]
  | some v =>
    simp only [textOf_eq]
    cases long : v.isLong <;> simp [long, bind, Except.bind, pure, Except.pure]

theorem givenText_failsBy :
    FailsBy (fun e => e = .tooManyDigits ∧ IsLongBehind l entries key) (givenText l entries key) := by
  unfold givenText
  split
  · exact .ok _
  · rename_i v given
    rw [textOf_eq]
    split
    · rename_i long
      exact .error ⟨rfl, v, given, long⟩
    · exact .ok _

/-- The text of an item of a list: that of a flag, or of a text or number. -/
def itemText (l : Loaded) (item : Value) : Except Error (Option Text) :=
  match l.follow item with
  | .bool b => .ok (some (flagText b))
  | v => textOf v

theorem itemText_succeeds_iff (item : Value) :
    (∃ t, itemText l item = .ok t) ↔ (l.follow item).isLong = false := by
  unfold itemText
  split
  · rename_i b flag
    simp [flag, Value.isLong]
  · rw [textOf_eq]
    cases long : (l.follow item).isLong <;> simp

theorem itemText_failsBy (item : Value) :
    FailsBy (fun e => e = .tooManyDigits ∧ (l.follow item).isLong) (itemText l item) := by
  unfold itemText
  split
  · exact .ok _
  · rw [textOf_eq]
    split
    · rename_i long
      exact .error ⟨rfl, long⟩
    · exact .ok _

theorem textsOf_list (items : List Value) :
    textsOf l (.list items) = (items.mapM (itemText l)).map (·.filterMap id) := rfl

theorem textsOf_list_succeeds_iff {items : List Value} :
    (∃ ts, textsOf l (.list items) = .ok ts) ↔ ∀ i ∈ items, (l.follow i).isLong = false := by
  simp only [← itemText_succeeds_iff, ← mapM_ok_exists_iff, textsOf_list]
  cases items.mapM (itemText l) <;> simp [Except.map]

theorem listBehind_succeeds_iff :
    (∃ ts, listBehind l entries key = .ok ts) ↔ ¬ HoldsLong l entries key := by
  unfold listBehind HoldsLong
  cases l.entry? entries key with
  | none => simp [itemsOf]
  | some v =>
    cases v with
    | list items => simpa [itemsOf] using textsOf_list_succeeds_iff
    | _ => simp [textsOf, itemsOf]

theorem listBehind_failsBy :
    FailsBy (fun e => e = .tooManyDigits ∧ HoldsLong l entries key) (listBehind l entries key) := by
  unfold listBehind HoldsLong
  cases l.entry? entries key with
  | none => exact .ok _
  | some v =>
    cases v with
    | list items =>
      simp only [textsOf_list]
      refine FailsBy.map (.mapM fun item member => ?_)
      exact (itemText_failsBy item).imp fun e h => ⟨h.1, item, member, h.2⟩
    | _ => exact .ok _

/-! ### Checks -/

theorem rootClassOf_succeeds_iff {given : Option Text} {default : Text} :
    (∃ c, rootClassOf given default = .ok c) ↔ ∀ name, given = some name → name.isIdentifier := by
  cases given with
  | none => simp [rootClassOf]
  | some name => cases ident : name.isIdentifier <;> simp [rootClassOf, ident]

theorem rootClassOf_failsBy {given : Option Text} {default : Text} :
    FailsBy (fun e => ∃ name, e = .badRootClass name ∧ given = some name ∧ ¬ name.isIdentifier)
      (rootClassOf given default) := by
  cases given with
  | none => exact .ok _
  | some name =>
    rw [rootClassOf]
    split
    · exact .ok _
    · rename_i other
      exact .error ⟨name, rfl, rfl, other⟩

/-- A positive integer, or a text of one. -/
def IsCount (v : Value) : Prop := ∃ n ∈ integerOf v, 0 < n

instance (v : Value) : Decidable (IsCount v) := inferInstanceAs (Decidable (∃ n ∈ integerOf v, 0 < n))

theorem workersOf_succeeds_iff {given : Option Value} :
    (∃ n, workersOf given = .ok n) ↔ ∀ v, given = some v → IsCount v := by
  unfold workersOf IsCount
  cases given with
  | none => simp
  | some v =>
    cases denoted : integerOf v with
    | none => simp [denoted]
    | some n =>
      simp only [denoted, Option.some.injEq, forall_eq']
      split <;> simp <;> omega

theorem workersOf_failsBy {given : Option Value} :
    FailsBy (fun e => e = .badWorkers ∧ ∃ v, given = some v ∧ ¬ IsCount v) (workersOf given) := by
  cases given with
  | none => exact .ok _
  | some v =>
    rw [workersOf]
    split
    · rename_i n denoted
      split
      · rename_i less
        refine .error ⟨rfl, v, rfl, ?_⟩
        rintro ⟨m, same, positive⟩
        obtain rfl := Option.some.inj (denoted.symm.trans same)
        omega
      · exact .ok _
    · rename_i denoted
      refine .error ⟨rfl, v, rfl, ?_⟩
      rintro ⟨m, same, -⟩
      cases denoted.symm.trans same

/-! ### Mappings -/

/-- The root class of a mapping, if it is given by a text or a number that is not empty, is an
identifier, and the number of its workers, if there is one, is positive. -/
structure IsValid (l : Loaded) (entries : Entries) : Prop where
  rootClass : ∀ v ∈ l.entry? entries "root_class", ∀ t ∈ shown v, t ≠ [] → t.isIdentifier
  workers : ∀ v ∈ l.entry? entries "workers", IsCount v

theorem isValid_iff : IsValid l entries ↔
    (∀ v ∈ l.entry? entries "root_class", ∀ t ∈ shown v, t ≠ [] → t.isIdentifier) ∧
      ∀ v ∈ l.entry? entries "workers", IsCount v :=
  ⟨fun h => ⟨h.rootClass, h.workers⟩, fun h => ⟨h.1, h.2⟩⟩

instance (l : Loaded) (entries : Entries) : Decidable (IsValid l entries) :=
  decidable_of_iff' _ isValid_iff

/-- No long integer is given where a mapping wants texts. -/
structure IsWritten (l : Loaded) (entries : Entries) : Prop where
  output : ¬ IsLongBehind l entries "output"
  rootClass : ¬ IsLongBehind l entries "root_class"
  defaultScope : ¬ IsLongBehind l entries "default_namespace"
  templates : ¬ IsLongBehind l entries "templates_dir"
  excludes : ¬ HoldsLong l entries "exclude_paths"
  enabled : ¬ HoldsLong l (entriesOf (l.entry? entries "sources")) "enabled"

theorem isWritten_iff : IsWritten l entries ↔
    (¬ IsLongBehind l entries "output" ∧ ¬ IsLongBehind l entries "root_class" ∧
      ¬ IsLongBehind l entries "default_namespace" ∧ ¬ IsLongBehind l entries "templates_dir") ∧
    ¬ HoldsLong l entries "exclude_paths" ∧
    ¬ HoldsLong l (entriesOf (l.entry? entries "sources")) "enabled" :=
  ⟨fun h => ⟨⟨h.output, h.rootClass, h.defaultScope, h.templates⟩, h.excludes, h.enabled⟩,
    fun h => ⟨h.1.1, h.1.2.1, h.1.2.2.1, h.1.2.2.2, h.2.1, h.2.2⟩⟩

instance (l : Loaded) (entries : Entries) : Decidable (IsWritten l entries) :=
  decidable_of_iff' _ isWritten_iff

theorem given_identifier_iff {given : Option Value} :
    (∀ name, (given.bind shown).filter (!·.isEmpty) = some name → name.isIdentifier) ↔
      ∀ v ∈ given, ∀ t ∈ shown v, t ≠ [] → t.isIdentifier := by
  simp only [Option.filter_eq_some_iff, Option.bind_eq_some_iff, Bool.not_eq_true', List.isEmpty_eq_false_iff]
  constructor
  · intro h v same t text filled
    exact h t ⟨⟨v, same, text⟩, filled⟩
  · rintro h t ⟨⟨v, same, text⟩, filled⟩
    exact h v same t text filled

theorem ofMapping_succeeds_iff :
    (∃ s, ofMapping l entries root = .ok s) ↔ IsValid l entries ∧ IsWritten l entries := by
  have pure_ok {α : Type} (a : α) : ∃ b, (pure a : Except Error α) = .ok b := ⟨a, rfl⟩
  simp only [ofMapping, except_bind_succeeds_iff, givenText_ok_iff, pure_ok, and_true, and_assoc,
    exists_and_left, exists_and_right, exists_eq_left', exists_eq', rootClassOf_succeeds_iff,
    workersOf_succeeds_iff, listBehind_succeeds_iff, given_identifier_iff, true_and]
  constructor
  · rintro ⟨output, rootClass, identifier, defaultScope, workers, excludes, enabled, templates⟩
    exact ⟨⟨identifier, workers⟩, ⟨output, rootClass, defaultScope, templates, excludes, enabled⟩⟩
  · rintro ⟨valid, written⟩
    exact ⟨written.output, written.rootClass, valid.rootClass, written.defaultScope, valid.workers,
      written.excludes, written.enabled, written.templates⟩

/-- A mapping is refused for what it says of the root class or of the workers, unless a long integer
comes first. -/
theorem ofMapping_failsBy : FailsBy (fun e => e = .tooManyDigits ∧ ¬ IsWritten l entries ∨
    ((∃ name, e = .badRootClass name) ∨ e = .badWorkers) ∧ ¬ IsValid l entries)
    (ofMapping l entries root) := by
  have text {key : Text} (wanted : IsWritten l entries → ¬ IsLongBehind l entries key) :
      FailsBy (fun e => e = .tooManyDigits ∧ ¬ IsWritten l entries ∨
        ((∃ name, e = .badRootClass name) ∨ e = .badWorkers) ∧ ¬ IsValid l entries)
        (givenText l entries key) :=
    givenText_failsBy.imp fun e h => .inl ⟨h.1, fun written => wanted written h.2⟩
  -- The keys in the order in which they are read.
  refine (text (·.output)).bind fun _ _ => (text (·.rootClass)).bind fun given read =>
    FailsBy.bind ?_ fun _ _ => (text (·.defaultScope)).bind fun _ _ => FailsBy.bind ?_ fun _ _ =>
      FailsBy.bind ?_ fun _ _ => FailsBy.bind ?_ fun _ _ => (text (·.templates)).bind fun _ _ => .ok _
  · refine rootClassOf_failsBy.imp ?_
    rintro e ⟨name, rfl, rfl, other⟩
    refine .inr ⟨.inl ⟨name, rfl⟩, fun valid => other ?_⟩
    exact given_identifier_iff.mpr valid.rootClass name (givenText_ok_iff.mp read).2
  · refine workersOf_failsBy.imp ?_
    rintro e ⟨rfl, v, given, other⟩
    exact .inr ⟨.inr rfl, fun valid => other (valid.workers v given)⟩
  · exact listBehind_failsBy.imp fun e h => .inl ⟨h.1, fun written => written.excludes h.2⟩
  · exact listBehind_failsBy.imp fun e h => .inl ⟨h.1, fun written => written.enabled h.2⟩

/-! ### Texts -/

/-- A text with something in it. -/
def IsFilled (cs : List Char) : Prop := (Text.ofChars cs).trim ≠ []

instance (cs : List Char) : Decidable (IsFilled cs) := inferInstanceAs (Decidable (_ ≠ _))

/-- A text is not blank, and its value is such. -/
def HasValue (P : Loaded → Value → Prop) (cs : List Char) : Prop :=
  IsFilled cs ∧ ∃ l, Yaml.load cs = .ok l ∧ P l (l.follow l.root)

instance {P : Loaded → Value → Prop} [∀ l v, Decidable (P l v)] (cs : List Char) :
    Decidable (HasValue P cs) :=
  match loaded : Yaml.load cs with
  | .ok l => decidable_of_iff (IsFilled cs ∧ P l (l.follow l.root)) (by simp [HasValue, loaded])
  | .error _ => isFalse (by simp [HasValue, loaded])

/-- Null, or a mapping of valid settings. -/
def States (l : Loaded) : Value → Prop
  | .null => True
  | .mapping entries => IsValid l entries
  | _ => False

instance (l : Loaded) : (v : Value) → Decidable (States l v)
  | .null => isTrue trivial
  | .mapping entries => inferInstanceAs (Decidable (IsValid l entries))
  | .bool _ | .integer _ | .real _ | .text _ | .octets _ | .date | .list _ | .pairs _ | .set _ | .shared _ =>
    isFalse not_false

/-- A mapping with a long integer in the place of a text. -/
def IsLengthy (l : Loaded) : Value → Prop
  | .mapping entries => ¬ IsWritten l entries
  | _ => False

instance (l : Loaded) : (v : Value) → Decidable (IsLengthy l v)
  | .mapping entries => inferInstanceAs (Decidable (¬ IsWritten l entries))
  | .null | .bool _ | .integer _ | .real _ | .text _ | .octets _ | .date | .list _ | .pairs _ | .set _
  | .shared _ => isFalse not_false

/-- A text is blank, or its value is null or a mapping of valid settings. -/
def IsStated (cs : List Char) : Prop := ¬ IsFilled cs ∨ HasValue States cs

instance (cs : List Char) : Decidable (IsStated cs) :=
  inferInstanceAs (Decidable (¬ IsFilled cs ∨ HasValue States cs))

/-- A text of good form with a value that cannot be made. -/
def IsFaulty (cs : List Char) (fault : Yaml.Fault) : Prop :=
  IsFilled cs ∧ Yaml.load cs = .error fault ∧ fault ≠ .malformed

/-- A text is refused for what it says. -/
def Error.isRefusal : Error → Bool
  | .malformed | .notMapping | .badRootClass _ | .badWorkers => true
  | _ => false

variable {cs : List Char} {fault : Yaml.Fault} {P : Loaded → Value → Prop}

theorem hasValue_iff (filled : IsFilled cs) (loaded : Yaml.load cs = .ok l) :
    HasValue P cs ↔ P l (l.follow l.root) := by
  constructor
  · rintro ⟨-, m, again, h⟩
    obtain rfl := Except.ok.inj (loaded.symm.trans again)
    exact h
  · intro h
    exact ⟨filled, l, loaded, h⟩

theorem no_value_of_fault (loaded : Yaml.load cs = .error fault) : ¬ HasValue P cs := by
  rintro ⟨-, l, again, -⟩
  cases again.symm.trans loaded

theorem isStated_iff (filled : IsFilled cs) : IsStated cs ↔ HasValue States cs :=
  or_iff_right (not_not_intro filled)

/-! ### Reading -/

/-- The settings of a value. -/
def ofValue (l : Loaded) (root : Path) : Value → Except Error Settings
  | .mapping entries => ofMapping l entries root
  | v => if v.isEmpty then .ok { root := root } else .error .notMapping

theorem ofChars_blank (blank : ¬ IsFilled cs) : ofChars cs root = .ok { root := root } := by
  have nothing : (Text.ofChars cs).trim = [] := of_not_not blank
  rw [ofChars, nothing]
  rfl

theorem ofChars_of_fault (filled : IsFilled cs) (loaded : Yaml.load cs = .error fault) :
    ofChars cs root = .error (if fault = .malformed then .malformed else .badValue fault) := by
  have some_text : (Text.ofChars cs).trim.isEmpty = false := List.isEmpty_eq_false_iff.mpr filled
  rw [ofChars, some_text, loaded]
  cases fault <;> rfl

theorem ofChars_of_loaded (filled : IsFilled cs) (loaded : Yaml.load cs = .ok l) :
    ofChars cs root = ofValue l root (l.follow l.root) := by
  have some_text : (Text.ofChars cs).trim.isEmpty = false := List.isEmpty_eq_false_iff.mpr filled
  rw [ofChars, some_text, loaded]
  simp only [Bool.false_eq_true, if_false]
  cases l.follow l.root <;> rfl

theorem ofValue_succeeds_iff :
    (∃ s, ofValue l root v = .ok s) ↔ States l v ∧ ¬ IsLengthy l v ∨ v.isHollow := by
  cases v with
  | mapping entries => simp [ofValue, States, IsLengthy, Value.isHollow, ofMapping_succeeds_iff]
  | null => simp [ofValue, States, IsLengthy, Value.isEmpty]
  | _ =>
    simp only [ofValue, States, false_and, false_or, Value.isHollow]
    split <;> simp [*]

theorem ofValue_failsBy : FailsBy (fun e => e.isRefusal ∧ ¬ States l v ∨ e = .tooManyDigits ∧ IsLengthy l v)
    (ofValue l root v) := by
  cases v with
  | mapping entries =>
    refine ofMapping_failsBy.imp ?_
    rintro e (⟨rfl, long⟩ | ⟨⟨name, rfl⟩ | rfl, invalid⟩)
    · exact .inr ⟨rfl, long⟩
    · exact .inl ⟨rfl, invalid⟩
    · exact .inl ⟨rfl, invalid⟩
  | null => exact .ok _
  | _ =>
    rw [ofValue]
    split
    · exact .ok _
    · exact .error (.inl ⟨rfl, not_false⟩)
    · simp

theorem not_hollow_of_lengthy (long : IsLengthy l v) : ¬ v.isHollow := by
  cases v with
  | mapping entries => simp [Value.isHollow]
  | _ => exact absurd long not_false

theorem ofChars_succeeds_iff : (∃ s, ofChars cs root = .ok s) ↔
    IsStated cs ∧ ¬ HasValue IsLengthy cs ∨ HasValue (fun _ v => v.isHollow) cs := by
  by_cases filled : IsFilled cs
  · rw [isStated_iff filled]
    cases loaded : Yaml.load cs with
    | error fault =>
      rw [ofChars_of_fault filled loaded]
      have no_value {P} : ¬ HasValue P cs := no_value_of_fault loaded
      simp [no_value]
    | ok l =>
      rw [ofChars_of_loaded filled loaded, ofValue_succeeds_iff]
      simp only [hasValue_iff filled loaded]
  · have no_value {P} : ¬ HasValue P cs := fun value => filled value.1
    exact iff_of_true ⟨_, ofChars_blank filled⟩ (.inl ⟨.inl filled, no_value⟩)

/-- A text is refused for what it says, a value of it cannot be made, or a long integer is in it. -/
theorem ofChars_failsBy : FailsBy (fun e => e.isRefusal ∧ ¬ IsStated cs ∨
    (∃ fault, IsFaulty cs fault ∧ e = .badValue fault) ∨ e = .tooManyDigits ∧ HasValue IsLengthy cs)
    (ofChars cs root) := by
  by_cases filled : IsFilled cs
  · rw [isStated_iff filled]
    cases loaded : Yaml.load cs with
    | error fault =>
      rw [ofChars_of_fault filled loaded]
      by_cases malformed : fault = .malformed
      · rw [if_pos malformed]
        exact .error (.inl ⟨rfl, no_value_of_fault loaded⟩)
      · rw [if_neg malformed]
        exact .error (.inr (.inl ⟨fault, ⟨filled, loaded, malformed⟩, rfl⟩))
    | ok l =>
      rw [ofChars_of_loaded filled loaded]
      refine ofValue_failsBy.imp ?_
      simp only [hasValue_iff filled loaded]
      rintro e (refused | long)
      · exact .inl refused
      · exact .inr (.inr long)
  · rw [ofChars_blank filled]
    exact .ok _

theorem load_of_text {w : Workspace} {p f : Path} (placed : file w p = .ok f)
    (text : w.tree.charsAt f = .ok cs) : load w p = ofChars cs f.parent := by
  rw [load, placed]
  simp only [Except.mapError, bind, Except.bind, Tree.holds_of_chars text, if_true, text]

/-- A directory with a file of settings. -/
def stating (text : String) : Workspace where
  tree := .directory [("project", .directory [(fileName, .file (Utf8.encode text.toList))])]
  here := ⟨.top, ["project"]⟩

def worded : String := "root_class: Stamps\nworkers: '4'\noutput: 16\n"

end Settings
end BodyDigest
