import BodyDigest.Proofs.Indented.Telling.Expressions

/-!
Patterns and simple statements of one form, of which the canonical texts tell them apart as those
of expressions do.
-/
namespace BodyDigest.Indented

/-! ### Forms -/

/-- Two names that may stand for each other. -/
def Words (a b : Text) : Prop := IsWord a ∧ IsWord b

inductive PatternForm : Pattern → Pattern → Prop
  | value {e e' : Expr} (form : ExprForm e e') : PatternForm (.value e) (.value e')
  | singleton {c d : Constant} (form : ConstantForm c d) :
    PatternForm (.singleton c) (.singleton d)
  | sequence {ps ps' : List Pattern} (patterns : List.Forall₂ PatternForm ps ps') :
    PatternForm (.sequence ps) (.sequence ps')
  | star {a b : Option Text} (name : Option.Rel Words a b) : PatternForm (.star a) (.star b)
  | mapping {ks ks' : List Expr} {ps ps' : List Pattern} {a b : Option Text}
    (keys : List.Forall₂ ExprForm ks ks') (patterns : List.Forall₂ PatternForm ps ps')
    (paired : ks.length = ps.length) (rest : Option.Rel Words a b) :
    PatternForm (.mapping ks ps a) (.mapping ks' ps' b)
  | object {e e' : Expr} {ps ps' named named' : List Pattern} {ns ns' : List Text}
    (type : ExprForm e e') (patterns : List.Forall₂ PatternForm ps ps')
    (names : List.Forall₂ Words ns ns') (values : List.Forall₂ PatternForm named named')
    (paired : ns.length = named.length) :
    PatternForm (.object e ps ns named) (.object e' ps' ns' named')
  | wildcard : PatternForm .wildcard .wildcard
  | capture {a b : Text} (name : Words a b) : PatternForm (.capture a) (.capture b)
  | binding {p p' : Pattern} {a b : Text} (inner : PatternForm p p') (name : Words a b) :
    PatternForm (.binding p a) (.binding p' b)
  | alternatives {p p' : Pattern} {ps ps' : List Pattern} (first : PatternForm p p')
    (later : List.Forall₂ PatternForm ps ps') :
    PatternForm (.alternatives (p :: ps)) (.alternatives (p' :: ps'))

/-- Two names of as many parts. -/
def Dotted (a b : Text) : Prop :=
  ∃ m n ms ns, Words m n ∧ List.Forall₂ Words ms ns ∧ a = Text.join "." (m :: ms) ∧
    b = Text.join "." (n :: ns)

inductive AliasForm : Alias → Alias → Prop
  | all : AliasForm ⟨"*", none⟩ ⟨"*", none⟩
  | named {a b : Text} {m n : Option Text} (name : Dotted a b) (renamed : Option.Rel Words m n) :
    AliasForm ⟨a, m⟩ ⟨b, n⟩

inductive WithItemForm : WithItem → WithItem → Prop
  | mk {e e' : Expr} {t t' : Option Expr} (context : ExprForm e e')
    (target : Option.Rel ExprForm t t') : WithItemForm ⟨e, t⟩ ⟨e', t'⟩

/-- A text on its own. -/
def isText : Expr → Bool
  | .constant (.text _ _) => true
  | _ => false

/-- Simple statements of one form. A text that is a statement is the same in both. -/
inductive SimpleForm : Simple → Simple → Prop
  | note (t : Text) (marked : Bool) :
    SimpleForm (.expression (.constant (.text t marked))) (.expression (.constant (.text t marked)))
  | expression {e e' : Expr} (form : ExprForm e e') (other : isText e = false) :
    SimpleForm (.expression e) (.expression e')
  | assign {ts ts' : List Expr} {v v' : Expr} (targets : List.Forall₂ ExprForm ts ts')
    (value : ExprForm v v') : SimpleForm (.assign ts v) (.assign ts' v')
  | augmented {t t' v v' : Expr} (op op' : BinaryOp) (target : ExprForm t t')
    (value : ExprForm v v') : SimpleForm (.augmented t op v) (.augmented t' op' v')
  | annotated {t t' a a' : Expr} {v v' : Option Expr} (target : ExprForm t t')
    (hint : ExprForm a a') (value : Option.Rel ExprForm v v') (bare : Bool) :
    SimpleForm (.annotated t a v bare) (.annotated t' a' v' bare)
  | return {v v' : Option Expr} (value : Option.Rel ExprForm v v') :
    SimpleForm (.return v) (.return v')
  | raise {e e' c c' : Option Expr} (exception : Option.Rel ExprForm e e')
    (cause : Option.Rel ExprForm c c') : SimpleForm (.raise e c) (.raise e' c')
  | delete {e e' : Expr} {es es' : List Expr} (first : ExprForm e e')
    (later : List.Forall₂ ExprForm es es') : SimpleForm (.delete (e :: es)) (.delete (e' :: es'))
  | assert {t t' : Expr} {m m' : Option Expr} (test : ExprForm t t')
    (message : Option.Rel ExprForm m m') : SimpleForm (.assert t m) (.assert t' m')
  | imports {a b : Alias} {as bs : List Alias} (first : AliasForm a b)
    (later : List.Forall₂ AliasForm as bs) : SimpleForm (.imports (a :: as)) (.imports (b :: bs))
  | importsFrom (level : Nat) {m n : Option Text} {a b : Alias} {as bs : List Alias}
    (module : Option.Rel Dotted m n) (first : AliasForm a b)
    (later : List.Forall₂ AliasForm as bs) :
    SimpleForm (.importsFrom level m (a :: as)) (.importsFrom level n (b :: bs))
  | global {a b : Text} {as bs : List Text} (first : Words a b)
    (later : List.Forall₂ Words as bs) : SimpleForm (.global (a :: as)) (.global (b :: bs))
  | nonlocal {a b : Text} {as bs : List Text} (first : Words a b)
    (later : List.Forall₂ Words as bs) : SimpleForm (.nonlocal (a :: as)) (.nonlocal (b :: bs))
  | pass : SimpleForm .pass .pass
  | break : SimpleForm .break .break
  | continue : SimpleForm .continue .continue

namespace Render

variable {P Q R : Prop} {t u v w : Text} {ts us vs ws : List Text}

/-! ### Names and patterns -/

theorem words_piece {a b : Text} (h : Words a b) : Piece (a = b) a b := h.1.piece h.2

theorem words_maybe {a b : Option Text} (h : Option.Rel Words a b) : Maybe (a = b) a b := by
  cases h with
  | none => exact .none rfl
  | some both => exact .some ((words_piece both).imp (by rintro rfl; rfl))

theorem words_pieces {as bs : List Text} (h : List.Forall₂ Words as bs) :
    Pieces (as = bs) as bs := by
  induction h with
  | nil => exact .nil rfl
  | cons both _ ih => exact .cons (words_piece both) ih (by rintro rfl rfl; rfl)

theorem words_joined {a b : Text} {as bs : List Text} (first : Words a b)
    (later : List.Forall₂ Words as bs) {k : Text} (separator : breaks k) :
    Piece (a = b ∧ as = bs) (Text.join k (a :: as)) (Text.join k (b :: bs)) :=
  Pieces.join_cons (words_piece first) (words_pieces later) separator

/-- Pairs of which no part is left over. -/
theorem zip_pieces (ht : Pieces P ts us) (hv : Pieces Q vs ws) (paired : ts.length = vs.length)
    {k : Text} (separator : breaks k) :
    Pieces (P ∧ Q) (ts.zipWith (fun a b => a ++ k ++ b) vs)
      (us.zipWith (fun a b => a ++ k ++ b) ws) := by
  induction ht generalizing Q vs ws with
  | nil p =>
    cases hv with
    | nil q => exact .nil ⟨p, q⟩
    | cons => cases paired
  | cons first _ whole ih =>
    cases hv with
    | nil => cases paired
    | cons second later' whole' =>
      have pair := first.append (second.after separator)
      rw [← List.append_assoc, ← List.append_assoc] at pair
      refine .cons pair (ih later' (Nat.succ.inj paired)) ?_
      rintro ⟨p, p'⟩ ⟨q, q'⟩
      exact ⟨whole p q, whole' p' q'⟩

theorem exprs_length {inField : Bool} {level : Level} {es : List Expr} {ts : List Text}
    (h : exprs inField level es = .ok ts) : ts.length = es.length := by
  induction es generalizing ts with
  | nil =>
    cases h
    rfl
  | cons e es ih =>
    simp only [exprs] at h
    obtain ⟨_, _, h⟩ := except_bind_ok_iff.mp h
    obtain ⟨others, found, h⟩ := except_bind_ok_iff.mp h
    cases h
    rw [List.length_cons, List.length_cons, ih found]

theorem patterns_length {level : Level} {ps : List Pattern} {ts : List Text}
    (h : patterns level ps = .ok ts) : ts.length = ps.length := by
  induction ps generalizing ts with
  | nil =>
    cases h
    rfl
  | cons p ps ih =>
    simp only [patterns] at h
    obtain ⟨_, _, h⟩ := except_bind_ok_iff.mp h
    obtain ⟨others, found, h⟩ := except_bind_ok_iff.mp h
    cases h
    rw [List.length_cons, List.length_cons, ih found]

/-- The texts of two patterns tell them apart. -/
def PatternTold (p p' : Pattern) : Prop :=
  ∀ level, Both (Piece (p = p')) (pattern level p) (pattern level p')

theorem patterns_pieces {ps ps' : List Pattern} (level : Level)
    (h : List.Forall₂ PatternTold ps ps') :
    Both (Pieces (ps = ps')) (patterns level ps) (patterns level ps') := by
  induction h with
  | nil => exact .ok (.nil rfl)
  | cons first _ ih =>
    simp only [patterns]
    refine (first _).bind fun _ _ one => ih.bind fun _ _ others => .pure (.cons one others ?_)
    rintro rfl rfl
    rfl

theorem told_pattern_mapping {ks ks' : List Expr} {ps ps' : List Pattern} {a b : Option Text}
    (keys : List.Forall₂ Told ks ks') (h : List.Forall₂ PatternTold ps ps')
    (paired : ks.length = ps.length) (rest : Option.Rel Words a b) :
    PatternTold (.mapping ks ps a) (.mapping ks' ps' b) := by
  intro level
  simp only [pattern]
  refine (exprs_pieces _ keys).read.bind fun _ _ one => (patterns_pieces _ h).read.bind
    fun _ _ two => .pure (braced_piece ?_)
  obtain ⟨one, shown⟩ := one
  obtain ⟨two, shown'⟩ := two
  have pairs := zip_pieces one two
    ((exprs_length shown).trans (paired.trans (patterns_length shown').symm)) (k := ": ") rfl
  have double := optional_pieces (k := "**") rfl (.nil True.intro) (words_maybe rest)
  refine commaSeparated_apart ((pairs.append double).imp ?_)
  rintro ⟨⟨rfl, rfl⟩, rfl⟩
  rfl

theorem told_pattern_object {e e' : Expr} {ps ps' named named' : List Pattern}
    {ns ns' : List Text} (type : Told e e') (h : List.Forall₂ PatternTold ps ps')
    (names : List.Forall₂ Words ns ns') (values : List.Forall₂ PatternTold named named')
    (paired : ns.length = named.length) :
    PatternTold (.object e ps ns named) (.object e' ps' ns' named') := by
  intro level
  simp only [pattern]
  refine (type.text _).bind fun _ _ one => (patterns_pieces _ h).bind fun _ _ two =>
    (patterns_pieces _ values).read.bind fun _ _ three => .pure ?_
  obtain ⟨three, shown⟩ := three
  have pairs := zip_pieces (words_pieces names) three (paired.trans (patterns_length shown).symm)
    (k := "=") rfl
  have list := parenthesized_piece (commaSeparated_apart (two.append pairs))
  refine (one.append (list.tail rfl rfl)).imp ?_
  rintro ⟨rfl, rfl, rfl, rfl⟩
  rfl

mutual

theorem told_pattern : (p : Pattern) → {p' : Pattern} → PatternForm p p' → PatternTold p p'
  | .value e, _, .value form => fun level => by
    simp only [pattern]
    exact ((told e form).text _).imp fun _ _ one => one.imp (by rintro rfl; rfl)
  | .singleton c, _, .singleton form => fun level => by
    simp only [pattern]
    exact (constant_piece form).imp fun _ _ one => one.imp (by rintro rfl; rfl)
  | .sequence ps, _, .sequence same => fun level => by
    simp only [pattern]
    refine (patterns_pieces _ (told_patterns ps same)).bind fun _ _ all => .pure ?_
    exact (bracketed_piece (commaSeparated_apart all)).imp (by rintro rfl; rfl)
  | .star none, _, .star .none => fun level => by
    simp only [pattern]
    exact .pure (.same True.intro (solid_iff.mpr ⟨rfl, rfl⟩))
  | .star (some _), _, .star (.some name) => fun level => by
    simp only [pattern]
    refine .pure (((words_piece name).lead (k := [.char '*']) rfl).imp ?_)
    rintro rfl
    rfl
  | .mapping ks ps _, _, .mapping keys same paired rest =>
    told_pattern_mapping (tolds ks keys) (told_patterns ps same) paired rest
  | .object e ps _ named, _, .object type same names values paired =>
    told_pattern_object (told e type) (told_patterns ps same) names (told_patterns named values)
      paired
  | .wildcard, _, .wildcard => fun level => by
    simp only [pattern]
    exact .pure (.same True.intro (solid_iff.mpr ⟨rfl, rfl⟩))
  | .capture _, _, .capture name => fun level => by
    simp only [pattern]
    exact .pure ((words_piece name).imp (by rintro rfl; rfl))
  | .binding p _, _, .binding inner name => fun level => by
    simp only [pattern, List.append_assoc]
    refine (told_pattern p inner _).bind fun _ _ one => .pure (parenthesizedIf_piece _ ?_)
    refine (one.append ((words_piece name).after (k := " as ") rfl)).imp ?_
    rintro ⟨rfl, rfl⟩
    rfl
  | .alternatives (p :: ps), _, .alternatives first later => fun level => by
    simp only [pattern, patterns, bind_assoc, pure_bind]
    refine (told_pattern p first _).bind fun _ _ one =>
      (patterns_pieces _ (told_patterns ps later)).bind
        fun _ _ others => .pure (parenthesizedIf_piece _ ?_)
    refine (Pieces.join_cons one others (k := " | ") rfl).imp ?_
    rintro ⟨rfl, rfl⟩
    rfl
termination_by structural p => p

theorem told_patterns : (ps : List Pattern) → {ps' : List Pattern} →
    List.Forall₂ PatternForm ps ps' → List.Forall₂ PatternTold ps ps'
  | [], _, .nil => .nil
  | p :: ps, _, .cons first later => .cons (told_pattern p first) (told_patterns ps later)
termination_by structural p => p

end

/-! ### Simple statements -/

theorem optional_form {o o' : Option Expr} (h : Option.Rel ExprForm o o') :
    Both (Maybe (o = o')) (optional false o) (optional false o') :=
  optional_maybe (toldOption o h)

theorem isName_form {e e' : Expr} (h : ExprForm e e') : isName e = isName e' := by
  cases h <;> rfl

theorem dotted_piece {a b : Text} (h : Dotted a b) : Piece (a = b) a b := by
  obtain ⟨m, n, ms, ns, first, later, rfl, rfl⟩ := h
  refine (words_joined first later (k := ".") rfl).imp ?_
  rintro ⟨rfl, rfl⟩
  rfl

theorem alias_piece {a b : Alias} (h : AliasForm a b) :
    Piece (a = b) (importedName a) (importedName b) := by
  cases h with
  | all => exact .same rfl (solid_iff.mpr ⟨rfl, rfl⟩)
  | named name renamed =>
    have one := dotted_piece name
    cases renamed with
    | none => exact one.imp (by rintro rfl; rfl)
    | some both =>
      simp only [importedName, List.append_assoc]
      refine (one.append ((words_piece both).after (k := " as ") rfl)).imp ?_
      rintro ⟨rfl, rfl⟩
      rfl

theorem aliases_piece {a b : Alias} {as bs : List Alias} (first : AliasForm a b)
    (later : List.Forall₂ AliasForm as bs) :
    Piece (a = b ∧ as = bs) (importedNames (a :: as)) (importedNames (b :: bs)) := by
  have others : Pieces (as = bs) (as.map importedName) (bs.map importedName) := by
    induction later with
    | nil => exact .nil rfl
    | cons one _ ih => exact .cons (alias_piece one) ih (by rintro rfl rfl; rfl)
  exact Pieces.join_cons (alias_piece first) others (k := ", ") rfl

/-- Targets with their signs, before the value that they get. -/
theorem targets_before {ts ts' : List Expr} (h : List.Forall₂ ExprForm ts ts') :
    Both (fun a b => ∀ Q v w, Piece Q v w → Piece (ts = ts' ∧ Q) (a ++ v) (b ++ w)) (targets ts)
      (targets ts') := by
  induction h with
  | nil => exact .ok fun Q v w value => value.imp fun q => ⟨rfl, q⟩
  | @cons t t' ts ts' first _ ih =>
    simp only [targets]
    refine ((told t first).text _).bind fun a b one => ih.bind fun c d others => .pure ?_
    intro Q v w value
    have whole := one.append ((others Q v w value).after (k := " = ") rfl)
    simp only [List.append_assoc]
    exact whole.imp (by rintro ⟨rfl, rfl, q⟩; exact ⟨rfl, q⟩)

theorem simple_piece {f f' : Simple} (form : SimpleForm f f') :
    Both (Piece (f = f')) (simple f) (simple f') := by
  cases form with
  | note t marked =>
    simp only [simple]
    exact ((Told.constant (.same (.text t marked))).text _).imp fun _ _ one =>
      one.imp fun _ => True.intro
  | @expression e e' form other =>
    simp only [simple]
    exact ((told e form).text _).imp fun _ _ one => one.imp (by rintro rfl; rfl)
  | @assign ts ts' v v' same value =>
    simp only [simple]
    refine (targets_before same).bind fun _ _ before => ((told v value).text _).bind
      fun _ _ one => .pure ?_
    exact (before _ _ _ one).imp (by rintro ⟨rfl, rfl⟩; rfl)
  | @augmented t t' v v' op op' target value =>
    simp only [simple]
    refine ((told t target).text _).bind fun _ _ one => ((told v value).text _).bind
      fun _ _ two => .pure ?_
    have operator := operator_tail (a := op) (b := op') two (k := "= ") rfl
    have whole : Piece (Simple.augmented t op v = .augmented t' op' v') _ _ :=
      (one.append operator).imp (by rintro ⟨rfl, rfl, rfl⟩; rfl)
    simpa only [List.append_assoc] using whole
  | @annotated t t' a a' v v' target hint value bare =>
    simp only [simple, ← isName_form target]
    refine ((told t target).text _).bind fun _ _ one => ((told a hint).text _).bind
      fun _ _ two => (optional_form value).bind fun _ _ three => .pure ?_
    have behind := (two.after (k := ": ") rfl).append (prefixed_tail three (k := " = ") rfl)
    have whole : Piece (Simple.annotated t a v bare = .annotated t' a' v' bare) _ _ :=
      ((parenthesizedIf_piece (!bare && isName t) one).append behind).imp
        (by rintro ⟨rfl, rfl, rfl⟩; rfl)
    simpa only [List.append_assoc] using whole
  | «return» value =>
    simp only [simple]
    refine (optional_form value).bind fun _ _ one => .pure ?_
    have word : Solid "return" := solid_iff.mpr ⟨rfl, rfl⟩
    exact ((Piece.same True.intro word).append (prefixed_tail one (k := " ") rfl)).imp
      (by rintro ⟨_, rfl⟩; rfl)
  | raise exception cause =>
    simp only [simple]
    refine (optional_form exception).bind fun _ _ one => (optional_form cause).bind
      fun _ _ two => .pure ?_
    have word : Solid "raise" := solid_iff.mpr ⟨rfl, rfl⟩
    exact (((Piece.same True.intro word).append (prefixed_tail one (k := " ") rfl)).append
      (prefixed_tail two (k := " from ") rfl)).imp (by rintro ⟨⟨_, rfl⟩, rfl⟩; rfl)
  | @delete e e' es es' first later =>
    simp only [simple, exprs, bind_assoc, pure_bind]
    refine ((told e first).text _).bind fun _ _ one => (exprs_pieces _ (tolds es later)).bind
      fun _ _ others => .pure ?_
    exact ((Pieces.join_cons one others (k := ", ") rfl).lead (k := "del ") rfl).imp
      (by rintro ⟨rfl, rfl⟩; rfl)
  | @assert t t' m m' test message =>
    simp only [simple]
    refine ((told t test).text _).bind fun _ _ one => (optional_form message).bind
      fun _ _ two => .pure ?_
    exact ((one.lead (k := "assert ") rfl).append (prefixed_tail two (k := ", ") rfl)).imp
      (by rintro ⟨rfl, rfl⟩; rfl)
  | imports first later =>
    simp only [simple]
    refine .pure ?_
    exact ((aliases_piece first later).lead (k := "import ") rfl).imp (by rintro ⟨rfl, rfl⟩; rfl)
  | @importsFrom level m n a b as bs module first later =>
    simp only [simple]
    refine .pure ?_
    have names := aliases_piece first later
    let dots : Text := List.replicate level (.char '.')
    cases module with
    | none =>
      have lead : starts (("from " : Text) ++ dots ++ " import ") := rfl
      have whole := (names.lead lead).imp (Q := Simple.importsFrom level none (a :: as) =
        .importsFrom level none (b :: bs)) (by rintro ⟨rfl, rfl⟩; rfl)
      simpa only [Option.getD_none, List.append_nil, List.append_assoc] using whole
    | @some m n one =>
      have lead : starts (("from " : Text) ++ dots) := rfl
      have whole := (((dotted_piece one).lead lead).append (names.after (k := " import ") rfl)).imp
        (Q := Simple.importsFrom level (some m) (a :: as) = .importsFrom level (some n) (b :: bs))
        (by rintro ⟨rfl, rfl, rfl⟩; rfl)
      simpa only [Option.getD_some, List.append_assoc] using whole
  | global first later =>
    simp only [simple]
    refine .pure ?_
    exact ((words_joined first later (k := ", ") rfl).lead (k := "global ") rfl).imp
      (by rintro ⟨rfl, rfl⟩; rfl)
  | nonlocal first later =>
    simp only [simple]
    refine .pure ?_
    exact ((words_joined first later (k := ", ") rfl).lead (k := "nonlocal ") rfl).imp
      (by rintro ⟨rfl, rfl⟩; rfl)
  | pass | «break» | «continue» =>
    simp only [simple]
    exact .pure (.same True.intro (solid_iff.mpr ⟨rfl, rfl⟩))

end Render

end BodyDigest.Indented
