import BodyDigest.Proofs.Results
import BodyDigest.Proofs.Indented.Leaves
import BodyDigest.Proofs.Indented.Shapes

/-!
Trees that have a canonical text. Only whole numbers that are too long and backslashes inside the
fields of formatted literals stand in the way of one.
-/
namespace BodyDigest.Indented

/-! ### Trees without obstacles -/

/-- A code point that a text inside a field shows as it is, between whatever quotes. -/
def shown (c : CodePoint) : Bool :=
  c.isPrintable && c != .char '\\' && c != .char '\'' && c != .char '"'

def shownOctet (b : UInt8) : Bool := 32 ≤ b && b ≤ 126 && b != 92 && b != 39 && b != 34

/-- A name without a backslash, which only counts inside a field. -/
def nameFits (inField : Bool) (id : Text) : Bool := !inField || !id.contains (.char '\\')

/-- A whole number that is not too long; inside a field nothing needs an escape. -/
def Constant.fits (inField : Bool) : Constant → Bool
  | .integer n => (Nat.toDigits 10 n).length ≤ Render.maxIntegerDigits
  | .text t _ => !inField || t.all shown
  | .bytes octets => !inField || octets.all shownOctet
  | _ => true

mutual

/-- Every number is short enough, and the fields of formatted literals hold no backslash, no quote
inside a literal and no other formatted literal. -/
def Expr.fits (inField : Bool) : Expr → Bool
  | .constant c => c.fits inField
  | .name id => nameFits inField id
  | .named target value => target.fits inField && value.fits inField
  | .boolean _ values => fitAll inField values
  | .binary left _ right => left.fits inField && right.fits inField
  | .unary _ operand => operand.fits inField
  | .lambda params body => params.fits inField && body.fits inField
  | .conditional test body otherwise =>
    test.fits inField && body.fits inField && otherwise.fits inField
  | .dict items => itemsFit inField items
  | .set elements => fitAll inField elements
  | .list elements => fitAll inField elements
  | .tuple elements => fitAll inField elements
  | .comprehension _ element clauses => element.fits inField && clausesFit inField clauses
  | .dictComprehension key value clauses =>
    key.fits inField && value.fits inField && clausesFit inField clauses
  | .await value => value.fits inField
  | .yield value => optionFits inField value
  | .yieldFrom value => value.fits inField
  | .compare left rest => left.fits inField && comparisonsFit inField rest
  | .call function arguments keywords =>
    function.fits inField && fitAll inField arguments && keywordsFit inField keywords
  | .joined parts => !inField && partsFit parts
  | .attribute value name => value.fits inField && nameFits inField name
  | .subscript value index => value.fits inField && index.fits inField
  | .slice lower upper step =>
    optionFits inField lower && optionFits inField upper && optionFits inField step
  | .starred value => value.fits inField

def optionFits (inField : Bool) : Option Expr → Bool
  | none => true
  | some e => e.fits inField

def fitAll (inField : Bool) : List Expr → Bool
  | [] => true
  | e :: rest => e.fits inField && fitAll inField rest

def itemsFit (inField : Bool) : List Item → Bool
  | [] => true
  | .pair key value :: rest => key.fits inField && value.fits inField && itemsFit inField rest
  | .unpack value :: rest => value.fits inField && itemsFit inField rest

def clausesFit (inField : Bool) : List Clause → Bool
  | [] => true
  | .mk _ target iterable conditions :: rest =>
    target.fits inField && iterable.fits inField && fitAll inField conditions &&
      clausesFit inField rest

def comparisonsFit (inField : Bool) : List Comparison → Bool
  | [] => true
  | .mk _ right :: rest => right.fits inField && comparisonsFit inField rest

def keywordsFit (inField : Bool) : List Keyword → Bool
  | [] => true
  | .mk name value :: rest =>
    name.all (nameFits inField) && value.fits inField && keywordsFit inField rest

def partsFit : List Part → Bool
  | [] => true
  | .literal _ :: rest => partsFit rest
  | .field value _ :: rest => value.fits true && partsFit rest
  | .formatted value _ format :: rest => value.fits true && partsFit format && partsFit rest

def Param.fits (inField : Bool) : Param → Bool
  | .mk name hint default =>
    nameFits inField name && optionFits inField hint && optionFits inField default

def paramsFit (inField : Bool) : List Param → Bool
  | [] => true
  | p :: rest => p.fits inField && paramsFit inField rest

def paramFits (inField : Bool) : Option Param → Bool
  | none => true
  | some p => p.fits inField

def Params.fits (inField : Bool) : Params → Bool
  | .mk positional regular rest keywordOnly keywords =>
    paramsFit inField positional && paramsFit inField regular && paramFits inField rest &&
      paramsFit inField keywordOnly && paramFits inField keywords

end

/-! ### Texts without a backslash -/

/-- Inside a field the text holds no backslash. -/
def Clear (inField : Bool) (t : Text) : Prop := inField = true → CodePoint.char '\\' ∉ t

variable {inField : Bool} {t u : Text} {ts us : List Text}

@[simp] theorem clear_false (t : Text) : Clear false t := by rintro ⟨⟩

theorem clear_of_contains (h : t.contains (.char '\\') = false) : Clear inField t := by
  intro _ member
  rw [List.contains_iff_mem.mpr member] at h
  cases h

@[simp] theorem clear_nil : Clear inField [] := fun _ => List.not_mem_nil

@[simp] theorem clear_cons {c : CodePoint} :
    Clear inField (c :: t) ↔ (inField = true → c ≠ .char '\\') ∧ Clear inField t := by
  cases inField with
  | false => simp
  | true => simp [Clear, eq_comm]

@[simp] theorem clear_append : Clear inField (t ++ u) ↔ Clear inField t ∧ Clear inField u := by
  cases inField with
  | false => simp
  | true => simp [Clear, not_or]

theorem clear_join (separator : Clear inField t) (all : ∀ u ∈ ts, Clear inField u) :
    Clear inField (Text.join t ts) := by
  induction ts with
  | nil => simp [Text.join]
  | cons u us ih =>
    cases us with
    | nil => simpa [Text.join] using all
    | cons v vs =>
      have later := ih fun w member => all w (List.mem_cons_of_mem _ member)
      have first := all u (List.mem_cons_self ..)
      simp only [Text.join, List.intercalate_cons_cons, clear_append] at later ⊢
      exact ⟨⟨first, separator⟩, later⟩

theorem clear_commaSeparated (all : ∀ u ∈ ts, Clear inField u) :
    Clear inField (Render.commaSeparated ts) :=
  clear_join (clear_of_contains rfl) all

theorem clear_flatMap {α : Type} {xs : List α} {f : α → Text} (all : ∀ x ∈ xs, Clear inField (f x)) :
    Clear inField (xs.flatMap f) := by
  intro inside member
  obtain ⟨x, listed, found⟩ := List.mem_flatMap.mp member
  exact all x listed inside found

theorem clear_ofChars {cs : List Char} (h : '\\' ∉ cs) : Clear inField (.ofChars cs) := by
  intro _ member
  obtain ⟨c, listed, same⟩ := List.mem_map.mp member
  cases same
  exact h listed

theorem clear_parenthesizedIf (condition : Bool) (h : Clear inField t) :
    Clear inField (Render.parenthesizedIf condition t) := by
  cases condition with
  | false => exact h
  | true => simp [Render.parenthesizedIf, Render.parenthesized, h]

/-! ### Literals -/

/-- A result that satisfies `p`. -/
def Gives {α : Type} (p : α → Prop) (r : Except RenderError α) : Prop := ∃ a, r = .ok a ∧ p a

section
variable {α β : Type} {p : α → Prop} {q : β → Prop} {r : Except RenderError α}

theorem Gives.pure {a : α} (h : p a) : Gives p (Pure.pure a) := ⟨a, rfl, h⟩

theorem Gives.bind {f : α → Except RenderError β} (h : Gives p r)
    (later : ∀ a, p a → Gives q (f a)) : Gives q (r >>= f) := by
  obtain ⟨a, rfl, holds⟩ := h
  exact later a holds

end

theorem digits_plain (n : Nat) : '\\' ∉ Nat.toDigits 10 n := by
  intro member
  have digit := Nat.isDigit_of_mem_toDigits (by decide) (by decide) member
  cases digit

theorem layout_plain (whole : Binary64.Whole) {ds : List Char} (lead : Int) (h : '\\' ∉ ds) :
    '\\' ∉ Binary64.layout whole ds lead := by
  have power := digits_plain lead.natAbs
  have sign : '\\' ≠ if lead < 0 then '-' else '+' := by split <;> decide
  have front : '\\' ∉ ds.take (lead.toNat + 1) := fun member => h (List.mem_of_mem_take member)
  have back : '\\' ∉ ds.drop (lead.toNat + 1) := fun member => h (List.mem_of_mem_drop member)
  unfold Binary64.layout
  split
  · split <;> simp_all
  · split
    · simp_all
    · cases whole <;>
      · dsimp only
        split
        · simp [h]
        · simp [front, back]

theorem render_plain (whole : Binary64.Whole) (x : Binary64) :
    '\\' ∉ x.render whole Render.infinity := by
  unfold Binary64.render
  split
  · decide
  · exact layout_plain whole 0 (by decide)
  · apply layout_plain
    intro member
    have kept := (List.dropWhile_sublist _).mem (List.mem_reverse.mp member)
    exact digits_plain _ (List.mem_reverse.mp kept)

theorem shown_iff {c : CodePoint} : shown c = true ↔ c.isPrintable = true ∧ c ≠ .char '\\' ∧
    c ≠ .char '\'' ∧ c ≠ .char '"' := by
  simp [shown, and_assoc]

theorem sparinglyEscaped_shown {c : CodePoint} (h : shown c) :
    Render.sparinglyEscaped false c = [c] := by
  obtain ⟨printable, backslash, _, _⟩ := shown_iff.mp h
  have other {d : Char} (hidden : (CodePoint.char d).isPrintable = false) : c ≠ .char d := by
    rintro rfl
    rw [hidden] at printable
    cases printable
  have feed := other (d := '\n') (by decide)
  have tab := other (d := '\t') (by decide)
  have carriage := other (d := '\r') (by decide)
  simp [Render.sparinglyEscaped, feed, tab, carriage, backslash, printable]

/-- A pattern is not found where its first element does not occur. -/
theorem contains_of_not_mem {c : CodePoint} {rest : Text} (h : c ∉ t) :
    Render.contains (c :: rest) t = false := by
  rw [Render.contains]
  induction t with
  | nil => rfl
  | cons d t ih =>
    obtain ⟨other, later⟩ := not_or.mp (List.mem_cons.not.mp h)
    have start : (c :: rest).isPrefixOf (d :: t) = false := by
      simp [List.isPrefixOf, other]
    rw [cutAt?, if_neg (by simp [start]), Option.isSome_map, ih later]

theorem quote_heads : ∀ q ∈ Render.allQuotes,
    q.head? = some (.char '\'') ∨ q.head? = some (.char '"') := by
  decide

/-- A text that needs no escape stands between single quotes. -/
theorem sparingLiteral_shown (h : t.all shown) :
    Render.sparingLiteral Render.allQuotes t = .char '\'' :: t ++ [.char '\''] := by
  have each := List.all_eq_true.mp h
  have unquoted {c : CodePoint} (member : c ∈ t) {q : Text} (quote : q ∈ Render.allQuotes) :
      q.head? ≠ some c := by
    obtain ⟨_, _, single, double⟩ := shown_iff.mp (each c member)
    rcases quote_heads q quote with head | head <;> rw [head] <;> simpa [eq_comm]
  have same : t.flatMap (Render.sparinglyEscaped false) = t := by
    have units : ∀ c ∈ t, Render.sparinglyEscaped false c = [c] := fun c member =>
      sparinglyEscaped_shown (each c member)
    rw [List.flatMap_congr units, List.flatMap_singleton']
  have feed : t.contains (.char '\n') = false := by
    rw [Bool.eq_false_iff]
    intro found
    have printable := (shown_iff.mp (each _ (List.contains_iff_mem.mp found))).1
    exact absurd printable (by decide)
  have possible : Render.allQuotes.filter (fun q => !Render.contains q t) = Render.allQuotes := by
    apply List.filter_eq_self.mpr
    intro q quote
    cases q with
    | nil => simpa using quote_heads [] quote
    | cons c rest =>
      rw [contains_of_not_mem fun member => unquoted member quote rfl]
      rfl
  have body : Render.literalBody Render.allQuotes false t = ⟨t, Render.allQuotes⟩ := by
    unfold Render.literalBody
    rw [same]
    simp only [feed, Bool.false_eq_true, if_false, possible]
    cases found : t.getLast? with
    | none => rfl
    | some c =>
      have member := List.mem_of_getLast? found
      have sorted : Render.preferOther c Render.allQuotes = Render.allQuotes := by
        have front : Render.allQuotes.filter (·.head? != some c) = Render.allQuotes :=
          List.filter_eq_self.mpr fun q quote => by simpa using unquoted member quote
        have back : Render.allQuotes.filter (·.head? == some c) = [] :=
          List.filter_eq_nil_iff.mpr fun q quote => by simpa using unquoted member quote
        rw [Render.preferOther, front, back, List.append_nil]
      have head : (Render.allQuotes.head?.bind (·.head?)) ≠ some c :=
        unquoted member (q := "'") (by decide)
      change (⟨if ((Render.preferOther c Render.allQuotes).head?.bind (·.head?)) = some c then
        t.dropLast ++ [.char '\\', c] else t, Render.preferOther c Render.allQuotes⟩ :
        Render.Body) = _
      rw [sorted, if_neg head]
  rw [Render.sparingLiteral, body]
  rfl

theorem byteEscaped_shown {b : UInt8} (h : shownOctet b) :
    ∀ q ∈ ['\'', '"'], CodePoint.char '\\' ∉ Render.byteEscaped q b := by
  simp only [shownOctet, Bool.and_eq_true, decide_eq_true_eq, bne_iff_ne, ne_eq] at h
  obtain ⟨⟨⟨⟨least, most⟩, slash⟩, single⟩, double⟩ := h
  have apart {d : Char} (other : b ≠ UInt8.ofNat d.toNat) : Char.ofNat b.toNat ≠ d := by
    rintro rfl
    apply other
    have valid : b.toNat.isValidChar := .inl (by have := b.toNat_lt; omega)
    rw [Char.ofNat, dif_pos valid]
    exact (UInt8.ofNat_toNat).symm
  intro q quote
  have not_quote : Char.ofNat b.toNat ≠ q := by
    simp only [List.mem_cons, List.not_mem_nil, or_false] at quote
    rcases quote with rfl | rfl
    · exact apart single
    · exact apart double
  have not_slash : Char.ofNat b.toNat ≠ '\\' := apart slash
  have control {d : Char} (small : UInt8.ofNat d.toNat < 32) : Char.ofNat b.toNat ≠ d := by
    apply apart
    rintro rfl
    exact absurd least (UInt8.not_le.mpr small)
  simp only [Render.byteEscaped, not_quote, not_slash, control (d := '\t') (by decide),
    control (d := '\n') (by decide), control (d := '\r') (by decide), least, most]
  simpa using not_slash.symm

theorem bytesLiteral_shown {octets : List UInt8} (h : octets.all shownOctet) :
    CodePoint.char '\\' ∉ Render.bytesLiteral octets := by
  have each := List.all_eq_true.mp h
  unfold Render.bytesLiteral
  extract_lets quote
  have listed : quote ∈ ['\'', '"'] := by
    unfold quote
    split <;> decide
  have other : CodePoint.char '\\' ≠ .char quote := by
    rcases List.mem_pair.mp listed with same | same <;> rw [same] <;> decide
  have inside : CodePoint.char '\\' ∉ octets.flatMap (Render.byteEscaped quote) := by
    intro member
    obtain ⟨b, octet, found⟩ := List.mem_flatMap.mp member
    exact byteEscaped_shown (each b octet) quote listed found
  simp [other, inside]

theorem gives_constant {c : Constant} (h : c.fits inField) :
    Gives (Clear inField) (Render.constant inField c) := by
  cases c with
  | null => exact .pure (clear_of_contains rfl)
  | bool value => cases value <;> exact .pure (clear_of_contains rfl)
  | ellipsis => exact .pure (clear_of_contains rfl)
  | integer value =>
    have short : ¬ Render.maxIntegerDigits < (Nat.toDigits 10 value).length :=
      Nat.not_lt.mpr (of_decide_eq_true h)
    rw [Render.constant]
    simp only [if_neg short]
    exact .pure (clear_ofChars (digits_plain value))
  | real value => exact .pure (clear_ofChars (render_plain .withZero value))
  | imaginary value =>
    exact .pure (clear_append.mpr ⟨clear_ofChars (render_plain .plain value),
      clear_of_contains rfl⟩)
  | text t marked =>
    refine .pure ?_
    cases inField with
    | false => exact clear_false _
    | true =>
      have plain : t.all shown := h
      have backslash : CodePoint.char '\\' ∉ t := fun member =>
        (shown_iff.mp (List.all_eq_true.mp plain _ member)).2.1 rfl
      rw [if_pos rfl, sparingLiteral_shown plain]
      have inside : Clear true t := fun _ => backslash
      have mark : Clear true ("u" : Text) := clear_of_contains rfl
      cases marked <;> simp [Render.mark, inside, mark]
  | bytes octets =>
    refine .pure ?_
    cases inField with
    | false => exact clear_false _
    | true => exact fun _ => bytesLiteral_shown h

/-! ### Expressions -/

theorem clear_name {id : Text} (h : nameFits inField id) : Clear inField id := by
  cases inField with
  | false => exact clear_false id
  | true => exact clear_of_contains (by simpa [nameFits] using h)

@[simp] theorem clear_string {s : String} :
    Clear inField (Text.ofString s) ↔ (inField = true → '\\' ∉ s.toList) := by
  cases inField with
  | false => simp
  | true => simp [Clear, Text.ofString, Text.ofChars]

theorem clear_binary (op : BinaryOp) : Clear inField op.symbol := by
  cases op <;> exact clear_of_contains rfl

theorem clear_unary (op : UnaryOp) : Clear inField op.symbol := by
  cases op <;> exact clear_of_contains rfl

theorem clear_boolean (op : BoolOp) : Clear inField op.symbol := by
  cases op <;> exact clear_of_contains rfl

theorem clear_comparison (op : CompareOp) : Clear inField op.symbol := by
  cases op <;> exact clear_of_contains rfl

theorem clear_tupleElements (all : ∀ u ∈ ts, Clear inField u) :
    Clear inField (Render.tupleElements ts) := by
  unfold Render.tupleElements
  split
  · simpa using all
  · exact clear_commaSeparated all

/-- What is written for an optional part. -/
def MaybeClear (inField : Bool) (o : Option Text) : Prop := ∀ t ∈ o, Clear inField t

theorem maybeClear_some (h : Clear inField t) : MaybeClear inField (some t) := by
  intro u found
  cases found
  exact h

/-- The parts of a parameter list are clear, and so are its signs. -/
theorem clear_parameters {p r k : List Text} {v d : Option Text}
    (positional : ∀ t ∈ p, Clear inField t) (regular : ∀ t ∈ r, Clear inField t)
    (rest : MaybeClear inField v) (keywordOnly : ∀ t ∈ k, Clear inField t)
    (keywords : MaybeClear inField d) : Clear inField (Render.parameters p r v k d) := by
  unfold Render.parameters
  apply clear_commaSeparated
  intro t member
  simp only [List.mem_append] at member
  rcases member with ((((member | member) | member) | member) | member) | member
  · exact positional t member
  · split at member
    · cases member
    · obtain rfl := List.mem_singleton.mp member
      exact clear_of_contains rfl
  · exact regular t member
  · split at member
    · obtain rfl := List.mem_singleton.mp member
      simp [rest _ rfl]
    · split at member
      · cases member
      · obtain rfl := List.mem_singleton.mp member
        exact clear_of_contains rfl
  · exact keywordOnly t member
  · split at member
    · obtain rfl := List.mem_singleton.mp member
      simp [keywords _ rfl]
    · cases member

theorem field_gives {value : Text} (h : Clear true value) (conversion : Option Char)
    (format : Text) : Gives (fun _ => True) (Render.field value conversion format) := by
  have absent : ¬ value.contains (.char '\\') := fun found =>
    h rfl (List.contains_iff_mem.mp found)
  unfold Render.field
  rw [if_neg absent]
  exact .pure trivial

theorem subscript_plain {level : Level} {value index : Expr}
    (other : ∀ e es, index ≠ .tuple (e :: es)) :
    Render.expr inField level (.subscript value index) = (do
      let v ← Render.expr inField Level.atom value
      return v ++ Render.bracketed (← Render.expr inField Level.test index)) := by
  rw [Render.expr]
  exact other

mutual

theorem gives_expr {inField : Bool} (level : Level) : (e : Expr) → e.fits inField →
    Gives (Clear inField) (Render.expr inField level e)
  | .constant c, h => by
    rw [Render.expr]
    exact gives_constant h
  | .name id, h => by
    rw [Render.expr]
    exact .pure (clear_name h)
  | .named target value, h => by
    rw [Expr.fits, Bool.and_eq_true] at h
    rw [Render.expr]
    exact .bind (gives_expr _ target h.1) fun t ht => .bind (gives_expr _ value h.2) fun v hv =>
      .pure (clear_parenthesizedIf _ (by simp [ht, hv]))
  | .boolean op values, h => by
    rw [Render.expr]
    exact .bind (gives_rising _ values h) fun vs hvs =>
      .pure (clear_parenthesizedIf _ (clear_join (clear_boolean op) hvs))
  | .binary left op right, h => by
    rw [Expr.fits, Bool.and_eq_true] at h
    rw [Render.expr]
    exact .bind (gives_expr _ left h.1) fun l hl => .bind (gives_expr _ right h.2) fun r hr =>
      .pure (clear_parenthesizedIf _ (by simp [hl, hr, clear_binary]))
  | .unary op operand, h => by
    rw [Render.expr]
    exact .bind (gives_expr _ operand h) fun e he =>
      .pure (clear_parenthesizedIf _ (by simp [he, clear_unary]))
  | .lambda ps body, h => by
    rw [Expr.fits, Bool.and_eq_true] at h
    rw [Render.expr]
    refine .bind (gives_params ps h.1) fun shown hs => .bind (gives_expr _ body h.2) fun b hb =>
      .pure (clear_parenthesizedIf _ ?_)
    split <;> simp [hs, hb]
  | .conditional test body otherwise, h => by
    simp only [Expr.fits, Bool.and_eq_true] at h
    rw [Render.expr]
    exact .bind (gives_expr _ body h.1.2) fun b hb => .bind (gives_expr _ test h.1.1) fun t ht =>
      .bind (gives_expr _ otherwise h.2) fun o ho =>
        .pure (clear_parenthesizedIf _ (by simp [hb, ht, ho]))
  | .dict entries, h => by
    rw [Render.expr]
    exact .bind (gives_items entries h) fun is his =>
      .pure (by simp [Render.braced, clear_commaSeparated his])
  | .set [], _ => by
    rw [Render.expr]
    exact .pure (clear_of_contains rfl)
  | .set (e :: es), h => by
    rw [Render.expr]
    · exact .bind (gives_exprs _ (e :: es) h) fun ts hts =>
        .pure (by simp [Render.braced, clear_commaSeparated hts])
    · rintro ⟨⟩
  | .list elements, h => by
    rw [Render.expr]
    exact .bind (gives_exprs _ elements h) fun ts hts =>
      .pure (by simp [Render.bracketed, clear_commaSeparated hts])
  | .tuple elements, h => by
    rw [Render.expr]
    exact .bind (gives_exprs _ elements h) fun ts hts =>
      .pure (clear_parenthesizedIf _ (clear_tupleElements hts))
  | .comprehension enclosure element cs, h => by
    rw [Expr.fits, Bool.and_eq_true] at h
    rw [Render.expr]
    refine .bind (gives_expr _ element h.1) fun e he => .bind (gives_clauses cs h.2) fun c hc =>
      .pure ?_
    cases enclosure <;>
      simp [Render.around, Render.bracketed, Render.braced, Render.parenthesized, he, hc]
  | .dictComprehension key value cs, h => by
    simp only [Expr.fits, Bool.and_eq_true] at h
    rw [Render.expr]
    exact .bind (gives_expr _ key h.1.1) fun k hk => .bind (gives_expr _ value h.1.2) fun v hv =>
      .bind (gives_clauses cs h.2) fun c hc => .pure (by simp [Render.braced, hk, hv, hc])
  | .await value, h => by
    rw [Render.expr]
    exact .bind (gives_expr _ value h) fun v hv => .pure (clear_parenthesizedIf _ (by simp [hv]))
  | .yield none, _ => by
    rw [Render.expr]
    exact .pure (clear_parenthesizedIf _ (by simp))
  | .yield (some value), h => by
    rw [Render.expr]
    exact .bind (gives_expr _ value h) fun v hv => .pure (clear_parenthesizedIf _ (by simp [hv]))
  | .yieldFrom value, h => by
    rw [Render.expr]
    exact .bind (gives_expr _ value h) fun v hv => .pure (clear_parenthesizedIf _ (by simp [hv]))
  | .compare left rest, h => by
    rw [Expr.fits, Bool.and_eq_true] at h
    rw [Render.expr]
    exact .bind (gives_expr _ left h.1) fun l hl => .bind (gives_comparisons rest h.2) fun r hr =>
      .pure (clear_parenthesizedIf _ (by simp [hl, hr]))
  | .call function arguments named, h => by
    simp only [Expr.fits, Bool.and_eq_true] at h
    rw [Render.expr]
    refine .bind (gives_expr _ function h.1.1) fun f hf =>
      .bind (gives_exprs _ arguments h.1.2) fun as has =>
        .bind (gives_keywords named h.2) fun ks hks => .pure ?_
    have all : ∀ u ∈ as ++ ks, Clear inField u := List.forall_mem_append.mpr ⟨has, hks⟩
    simp [Render.parenthesized, hf, clear_commaSeparated all]
  | .joined ps, h => by
    simp only [Expr.fits, Bool.and_eq_true, Bool.not_eq_true'] at h
    obtain ⟨rfl, h⟩ := h
    rw [Render.expr]
    exact .bind (gives_parts ps h) fun texts _ => .pure (clear_false _)
  | .attribute value name, h => by
    rw [Expr.fits, Bool.and_eq_true] at h
    rw [Render.expr]
    refine .bind (gives_expr _ value h.1) fun v hv => .pure ?_
    split <;> simp [hv, clear_name h.2]
  | .subscript value index, h => by
    rw [Expr.fits, Bool.and_eq_true] at h
    have whole := gives_expr Level.test index h.2
    have plain (other : ∀ e es, index ≠ .tuple (e :: es)) :
        Gives (Clear inField) (Render.expr inField level (.subscript value index)) := by
      rw [subscript_plain other]
      exact .bind (gives_expr _ value h.1) fun v hv => .bind whole fun i hi =>
        .pure (by simp [Render.bracketed, hv, hi])
    cases index with
    | tuple elements =>
      cases elements with
      | nil => exact plain nofun
      | cons e es =>
        have inside : e.fits inField ∧ fitAll inField es := (Bool.and_eq_true _ _).mp h.2
        rw [Render.expr]
        refine .bind (gives_expr _ value h.1) fun v hv => .bind (gives_expr _ e inside.1)
          fun first hf => .bind (gives_exprs _ es inside.2) fun others hos => .pure ?_
        have all := clear_tupleElements (List.forall_mem_cons.mpr ⟨hf, hos⟩)
        simp [Render.bracketed, hv, all]
    | _ => exact plain nofun
  | .slice lower upper step, h => by
    simp only [Expr.fits, Bool.and_eq_true] at h
    rw [Render.expr]
    refine .bind (gives_optional lower h.1.1) fun l hl => .bind (gives_optional upper h.1.2)
      fun u hu => .bind (gives_optional step h.2) fun s hs => .pure ?_
    cases l <;> cases u <;> cases s <;> simp_all [MaybeClear]
  | .starred value, h => by
    rw [Render.expr]
    exact .bind (gives_expr _ value h) fun v hv => .pure (by simp [hv])

theorem gives_optional {inField : Bool} : (o : Option Expr) → optionFits inField o →
    Gives (MaybeClear inField) (Render.optional inField o)
  | none, _ => .pure nofun
  | some e, h => by
    rw [Render.optional]
    exact .bind (gives_expr _ e h) fun t ht => .pure (maybeClear_some ht)

theorem gives_exprs {inField : Bool} (level : Level) : (es : List Expr) → fitAll inField es →
    Gives (∀ t ∈ ·, Clear inField t) (Render.exprs inField level es)
  | [], _ => .pure nofun
  | e :: rest, h => by
    rw [fitAll, Bool.and_eq_true] at h
    rw [Render.exprs]
    exact .bind (gives_expr _ e h.1) fun t ht => .bind (gives_exprs _ rest h.2) fun ts hts =>
      .pure (List.forall_mem_cons.mpr ⟨ht, hts⟩)

theorem gives_rising {inField : Bool} (level : Level) : (es : List Expr) → fitAll inField es →
    Gives (∀ t ∈ ·, Clear inField t) (Render.rising inField level es)
  | [], _ => .pure nofun
  | e :: rest, h => by
    rw [fitAll, Bool.and_eq_true] at h
    rw [Render.rising]
    exact .bind (gives_expr _ e h.1) fun t ht => .bind (gives_rising _ rest h.2) fun ts hts =>
      .pure (List.forall_mem_cons.mpr ⟨ht, hts⟩)

theorem gives_items {inField : Bool} : (is : List Item) → itemsFit inField is →
    Gives (∀ t ∈ ·, Clear inField t) (Render.items inField is)
  | [], _ => .pure nofun
  | .pair key value :: rest, h => by
    simp only [itemsFit, Bool.and_eq_true] at h
    rw [Render.items]
    exact .bind (gives_expr _ key h.1.1) fun k hk => .bind (gives_expr _ value h.1.2) fun v hv =>
      .bind (gives_items rest h.2) fun ts hts =>
        .pure (List.forall_mem_cons.mpr ⟨by simp [hk, hv], hts⟩)
  | .unpack value :: rest, h => by
    rw [itemsFit, Bool.and_eq_true] at h
    rw [Render.items]
    exact .bind (gives_expr _ value h.1) fun v hv => .bind (gives_items rest h.2) fun ts hts =>
      .pure (List.forall_mem_cons.mpr ⟨by simp [hv], hts⟩)

theorem gives_clauses {inField : Bool} : (cs : List Clause) → clausesFit inField cs →
    Gives (Clear inField) (Render.clauses inField cs)
  | [], _ => .pure clear_nil
  | .mk async target iterable conditions :: rest, h => by
    simp only [clausesFit, Bool.and_eq_true] at h
    rw [Render.clauses]
    refine .bind (gives_expr _ target h.1.1.1) fun t ht =>
      .bind (gives_expr _ iterable h.1.1.2) fun i hi =>
        .bind (gives_exprs _ conditions h.1.2) fun cs hcs =>
          .bind (gives_clauses rest h.2) fun r hr => .pure ?_
    have tests : Clear inField (cs.flatMap fun c => (" if " : Text) ++ c) :=
      clear_flatMap fun c member => by simp [hcs c member]
    split <;> simp [ht, hi, hr, tests]

theorem gives_comparisons {inField : Bool} : (cs : List Comparison) → comparisonsFit inField cs →
    Gives (Clear inField) (Render.comparisons inField cs)
  | [], _ => .pure clear_nil
  | .mk op right :: rest, h => by
    rw [comparisonsFit, Bool.and_eq_true] at h
    rw [Render.comparisons]
    exact .bind (gives_expr _ right h.1) fun r hr => .bind (gives_comparisons rest h.2)
      fun t ht => .pure (by simp [hr, ht, clear_comparison])

theorem gives_keywords {inField : Bool} : (ks : List Keyword) → keywordsFit inField ks →
    Gives (∀ t ∈ ·, Clear inField t) (Render.keywords inField ks)
  | [], _ => .pure nofun
  | .mk name value :: rest, h => by
    simp only [keywordsFit, Bool.and_eq_true] at h
    unfold Render.keywords
    refine .bind (gives_expr _ value h.1.2) fun v hv => .bind (gives_keywords rest h.2)
      fun ts hts => .pure (List.forall_mem_cons.mpr ⟨?_, hts⟩)
    cases name with
    | none => simp [hv]
    | some id => simp [hv, clear_name h.1.1]

theorem gives_parts : (ps : List Part) → partsFit ps →
    Gives (fun _ => True) (Render.parts ps)
  | [], _ => .pure trivial
  | .literal _ :: rest, h => by
    rw [Render.parts]
    exact .bind (gives_parts rest h) fun _ _ => .pure trivial
  | .field value conversion :: rest, h => by
    rw [partsFit, Bool.and_eq_true] at h
    rw [Render.parts]
    exact .bind (gives_expr _ value h.1) fun v hv => .bind (field_gives hv conversion [])
      fun _ _ => .bind (gives_parts rest h.2) fun _ _ => .pure trivial
  | .formatted value conversion format :: rest, h => by
    simp only [partsFit, Bool.and_eq_true] at h
    rw [Render.parts]
    exact .bind (gives_expr _ value h.1.1) fun v hv => .bind (gives_parts format h.1.2)
      fun inner _ => .bind (field_gives hv conversion _) fun _ _ =>
        .bind (gives_parts rest h.2) fun _ _ => .pure trivial

theorem gives_param {inField : Bool} : (p : Param) → p.fits inField →
    Gives (Clear inField) (Render.param inField p)
  | .mk name hint default, h => by
    simp only [Param.fits, Bool.and_eq_true] at h
    rw [Render.param]
    refine .bind (gives_optional hint h.1.2) fun a ha => .bind (gives_optional default h.2)
      fun d hd => .pure ?_
    have named := clear_name h.1.1
    cases a <;> cases d <;> simp_all [Render.defaulted, MaybeClear]

theorem gives_paramList {inField : Bool} : (ps : List Param) → paramsFit inField ps →
    Gives (∀ t ∈ ·, Clear inField t) (Render.paramList inField ps)
  | [], _ => .pure nofun
  | p :: rest, h => by
    rw [paramsFit, Bool.and_eq_true] at h
    rw [Render.paramList]
    exact .bind (gives_param p h.1) fun t ht => .bind (gives_paramList rest h.2) fun ts hts =>
      .pure (List.forall_mem_cons.mpr ⟨ht, hts⟩)

theorem gives_paramOption {inField : Bool} : (o : Option Param) → paramFits inField o →
    Gives (MaybeClear inField) (Render.paramOption inField o)
  | none, _ => .pure nofun
  | some p, h => by
    rw [Render.paramOption]
    exact .bind (gives_param p h) fun t ht => .pure (maybeClear_some ht)

theorem gives_params {inField : Bool} : (ps : Params) → ps.fits inField →
    Gives (Clear inField) (Render.params inField ps)
  | .mk positional regular rest keywordOnly keywords, h => by
    simp only [Params.fits, Bool.and_eq_true] at h
    rw [Render.params]
    exact .bind (gives_paramList positional h.1.1.1.1) fun p hp =>
      .bind (gives_paramList regular h.1.1.1.2) fun r hr =>
        .bind (gives_paramOption rest h.1.1.2) fun v hv =>
          .bind (gives_paramList keywordOnly h.1.2) fun k hk =>
            .bind (gives_paramOption keywords h.2) fun d hd =>
              .pure (clear_parameters hp hr hv hk hd)

end

/-! ### Patterns -/

mutual

def Pattern.fits : Pattern → Bool
  | .value e => e.fits false
  | .singleton c => c.fits false
  | .sequence ps => patternsFit ps
  | .star _ => true
  | .mapping keys ps _ => fitAll false keys && patternsFit ps
  | .object type ps _ named => type.fits false && patternsFit ps && patternsFit named
  | .wildcard => true
  | .capture _ => true
  | .binding inner _ => inner.fits
  | .alternatives ps => patternsFit ps

def patternsFit : List Pattern → Bool
  | [] => true
  | p :: rest => p.fits && patternsFit rest

end

/-- There is a result. -/
abbrev Succeeds {α : Type} (r : Except RenderError α) : Prop := Gives (fun _ => True) r

theorem Gives.succeeds {α : Type} {p : α → Prop} {r : Except RenderError α} (h : Gives p r) :
    Succeeds r := by
  obtain ⟨a, same, _⟩ := h
  exact ⟨a, same, trivial⟩

theorem Gives.next {α β : Type} {p : α → Prop} {q : β → Prop} {r : Except RenderError α}
    {f : α → Except RenderError β} (h : Gives p r) (later : ∀ a, Gives q (f a)) :
    Gives q (r >>= f) := h.bind fun a _ => later a

mutual

theorem succeeds_pattern (level : Level) : (p : Pattern) → p.fits →
    Succeeds (Render.pattern level p)
  | .value e, h => by
    rw [Render.pattern]
    exact (gives_expr _ e h).succeeds
  | .singleton c, h => by
    rw [Render.pattern]
    exact (gives_constant h).succeeds
  | .sequence ps, h => by
    rw [Render.pattern]
    exact .next (succeeds_patterns _ ps h) fun _ => .pure trivial
  | .star _, _ => .pure trivial
  | .mapping keys ps rest, h => by
    rw [Pattern.fits, Bool.and_eq_true] at h
    unfold Render.pattern
    exact .next (gives_exprs _ keys h.1) fun _ => .next (succeeds_patterns _ ps h.2) fun _ =>
      .pure trivial
  | .object type ps names named, h => by
    simp only [Pattern.fits, Bool.and_eq_true] at h
    unfold Render.pattern
    exact .next (gives_expr _ type h.1.1) fun _ => .next (succeeds_patterns _ ps h.1.2) fun _ =>
      .next (succeeds_patterns _ named h.2) fun _ => .pure trivial
  | .wildcard, _ => .pure trivial
  | .capture _, _ => .pure trivial
  | .binding inner _, h => by
    rw [Render.pattern]
    exact .next (succeeds_pattern _ inner h) fun _ => .pure trivial
  | .alternatives ps, h => by
    rw [Render.pattern]
    exact .next (succeeds_patterns _ ps h) fun _ => .pure trivial

theorem succeeds_patterns (level : Level) : (ps : List Pattern) → patternsFit ps →
    Succeeds (Render.patterns level ps)
  | [], _ => .pure trivial
  | p :: rest, h => by
    rw [patternsFit, Bool.and_eq_true] at h
    rw [Render.patterns]
    exact .next (succeeds_pattern _ p h.1) fun _ => .next (succeeds_patterns _ rest h.2) fun _ =>
      .pure trivial

end

/-! ### Statements -/

def WithItem.fits (item : WithItem) : Bool := item.context.fits false && optionFits false item.target

def Simple.fits : Simple → Bool
  | .expression value => value.fits false
  | .assign targets value => fitAll false targets && value.fits false
  | .augmented target _ value => target.fits false && value.fits false
  | .annotated target hint value _ =>
    target.fits false && hint.fits false && optionFits false value
  | .return value => optionFits false value
  | .raise exception cause => optionFits false exception && optionFits false cause
  | .delete targets => fitAll false targets
  | .assert test message => test.fits false && optionFits false message
  | _ => true

def FunctionHead.fits (head : FunctionHead) : Bool :=
  fitAll false head.decorators && head.params.fits false && optionFits false head.returns

def ClassHead.fits (head : ClassHead) : Bool :=
  fitAll false head.decorators && fitAll false head.bases && keywordsFit false head.keywords

section
variable {P : Type}

mutual

def Stmt.fits : Stmt P → Bool
  | .simple _ form => form.fits
  | .function _ head body => head.fits && stmtsFit body
  | .class _ head body => head.fits && stmtsFit body
  | .if _ test body otherwise => test.fits false && stmtsFit body && stmtsFit otherwise
  | .while _ test body otherwise => test.fits false && stmtsFit body && stmtsFit otherwise
  | .for _ _ target iterable body otherwise =>
    target.fits false && iterable.fits false && stmtsFit body && stmtsFit otherwise
  | .with _ _ items body => items.all WithItem.fits && stmtsFit body
  | .try _ _ body handlers otherwise final =>
    stmtsFit body && handlersFit handlers && stmtsFit otherwise && stmtsFit final
  | .match _ subject cases => subject.fits false && casesFit cases

def stmtsFit : List (Stmt P) → Bool
  | [] => true
  | s :: rest => s.fits && stmtsFit rest

def handlersFit : List (Handler P) → Bool
  | [] => true
  | .mk type _ body :: rest => optionFits false type && stmtsFit body && handlersFit rest

def casesFit : List (Case P) → Bool
  | [] => true
  | .mk pattern guard body :: rest =>
    pattern.fits && optionFits false guard && stmtsFit body && casesFit rest

end

end

theorem succeeds_withItems {items : List WithItem} (h : items.all WithItem.fits) :
    Succeeds (Render.withItems items) := by
  induction items with
  | nil => exact .pure trivial
  | cons item rest ih =>
    rw [List.all_cons, WithItem.fits, Bool.and_eq_true, Bool.and_eq_true] at h
    rw [Render.withItems]
    exact .next (gives_expr _ _ h.1.1) fun _ => .next (gives_optional _ h.1.2) fun _ =>
      .next (ih h.2) fun _ => .pure trivial

theorem succeeds_targets {ts : List Expr} (h : fitAll false ts) :
    Succeeds (Render.targets ts) := by
  induction ts with
  | nil => exact .pure trivial
  | cons t rest ih =>
    rw [fitAll, Bool.and_eq_true] at h
    rw [Render.targets]
    exact .next (gives_expr _ _ h.1) fun _ => .next (ih h.2) fun _ => .pure trivial

theorem succeeds_simple {form : Simple} (h : form.fits) : Succeeds (Render.simple form) := by
  unfold Render.simple
  cases form with
  | expression value => exact (gives_expr _ _ h).succeeds
  | assign targets value =>
    rw [Simple.fits, Bool.and_eq_true] at h
    exact .next (succeeds_targets h.1) fun _ => .next (gives_expr _ _ h.2) fun _ => .pure trivial
  | augmented target op value =>
    rw [Simple.fits, Bool.and_eq_true] at h
    exact .next (gives_expr _ _ h.1) fun _ => .next (gives_expr _ _ h.2) fun _ => .pure trivial
  | annotated target hint value bare =>
    simp only [Simple.fits, Bool.and_eq_true] at h
    exact .next (gives_expr _ _ h.1.1) fun _ => .next (gives_expr _ _ h.1.2) fun _ =>
      .next (gives_optional _ h.2) fun _ => .pure trivial
  | «return» value => exact .next (gives_optional _ h) fun _ => .pure trivial
  | raise exception cause =>
    rw [Simple.fits, Bool.and_eq_true] at h
    exact .next (gives_optional _ h.1) fun _ => .next (gives_optional _ h.2) fun _ => .pure trivial
  | delete targets => exact .next (gives_exprs _ _ h) fun _ => .pure trivial
  | assert test message =>
    rw [Simple.fits, Bool.and_eq_true] at h
    exact .next (gives_expr _ _ h.1) fun _ => .next (gives_optional _ h.2) fun _ => .pure trivial
  | _ => exact .pure trivial

theorem succeeds_decoratorLines {ds : List Expr} (h : fitAll false ds) (depth : Nat) :
    Succeeds (Render.decoratorLines depth ds) :=
  .next (gives_exprs _ _ h) fun _ => .pure trivial

theorem succeeds_functionHead {head : FunctionHead} (h : head.fits) (depth : Nat) :
    Succeeds (Render.functionHead depth head) := by
  simp only [FunctionHead.fits, Bool.and_eq_true] at h
  exact .next (succeeds_decoratorLines h.1.1 depth) fun _ => .next (gives_params _ h.1.2) fun _ =>
    .next (gives_optional _ h.2) fun _ => .pure trivial

theorem succeeds_classHead {head : ClassHead} (h : head.fits) (depth : Nat) :
    Succeeds (Render.classHead depth head) := by
  simp only [ClassHead.fits, Bool.and_eq_true] at h
  exact .next (succeeds_decoratorLines h.1.1 depth) fun _ => .next (gives_exprs _ _ h.1.2) fun _ =>
    .next (gives_keywords _ h.2) fun _ => .pure trivial

variable {P : Type}

mutual

theorem succeeds_stmt (depth : Nat) : (s : Stmt P) → s.fits → Succeeds (Render.stmt depth s)
  | .simple _ form, h => by
    rw [Render.stmt]
    exact .next (succeeds_simple h) fun _ => .pure trivial
  | .function _ head body, h => by
    rw [Stmt.fits, Bool.and_eq_true] at h
    rw [Render.stmt]
    exact .next (succeeds_functionHead h.1 depth) fun _ =>
      .next (succeeds_suite _ body h.2) fun _ => .pure trivial
  | .class _ head body, h => by
    rw [Stmt.fits, Bool.and_eq_true] at h
    rw [Render.stmt]
    exact .next (succeeds_classHead h.1 depth) fun _ =>
      .next (succeeds_suite _ body h.2) fun _ => .pure trivial
  | .if _ test body otherwise, h => by
    simp only [Stmt.fits, Bool.and_eq_true] at h
    rw [Render.stmt]
    exact .next (gives_expr _ test h.1.1) fun _ => .next (succeeds_stmts _ body h.1.2) fun _ =>
      .next (succeeds_alternative _ otherwise h.2) fun _ => .pure trivial
  | .while _ test body otherwise, h => by
    simp only [Stmt.fits, Bool.and_eq_true] at h
    rw [Render.stmt]
    exact .next (gives_expr _ test h.1.1) fun _ => .next (succeeds_stmts _ body h.1.2) fun _ =>
      .next (succeeds_block _ _ otherwise h.2) fun _ => .pure trivial
  | .for _ _ target iterable body otherwise, h => by
    simp only [Stmt.fits, Bool.and_eq_true] at h
    rw [Render.stmt]
    exact .next (gives_expr _ target h.1.1.1) fun _ => .next (gives_expr _ iterable h.1.1.2)
      fun _ => .next (succeeds_stmts _ body h.1.2) fun _ =>
        .next (succeeds_block _ _ otherwise h.2) fun _ => .pure trivial
  | .with _ _ items body, h => by
    rw [Stmt.fits, Bool.and_eq_true] at h
    rw [Render.stmt]
    exact .next (succeeds_withItems h.1) fun _ => .next (succeeds_stmts _ body h.2) fun _ =>
      .pure trivial
  | .try _ star body handlers otherwise final, h => by
    simp only [Stmt.fits, Bool.and_eq_true] at h
    rw [Render.stmt]
    exact .next (succeeds_stmts _ body h.1.1.1) fun _ =>
      .next (succeeds_handlers _ _ handlers h.1.1.2) fun _ =>
        .next (succeeds_block _ _ otherwise h.1.2) fun _ =>
          .next (succeeds_block _ _ final h.2) fun _ => .pure trivial
  | .match _ subject cases, h => by
    rw [Stmt.fits, Bool.and_eq_true] at h
    rw [Render.stmt]
    exact .next (gives_expr _ subject h.1) fun _ => .next (succeeds_cases _ cases h.2) fun _ =>
      .pure trivial

theorem succeeds_stmts (depth : Nat) : (ss : List (Stmt P)) → stmtsFit ss →
    Succeeds (Render.stmts depth ss)
  | [], _ => .pure trivial
  | s :: rest, h => by
    rw [stmtsFit, Bool.and_eq_true] at h
    rw [Render.stmts]
    exact .next (succeeds_stmt _ s h.1) fun _ => .next (succeeds_stmts _ rest h.2) fun _ =>
      .pure trivial

theorem succeeds_suite (depth : Nat) : (ss : List (Stmt P)) → stmtsFit ss →
    Succeeds (Render.suite depth ss)
  | [], _ => .pure trivial
  | s :: rest, h => by
    rw [stmtsFit, Bool.and_eq_true] at h
    rw [Render.suite]
    split
    · refine .next (Gives.pure trivial : Succeeds _) fun _ => ?_
      exact .next (succeeds_stmts _ rest h.2) fun _ => .pure trivial
    · refine .next (succeeds_stmt _ s h.1) fun _ => ?_
      exact .next (succeeds_stmts _ rest h.2) fun _ => .pure trivial

theorem succeeds_block (depth : Nat) (keyword : Text) : (ss : List (Stmt P)) → stmtsFit ss →
    Succeeds (Render.block depth keyword ss)
  | [], _ => .pure trivial
  | s :: rest, h => by
    rw [stmtsFit, Bool.and_eq_true] at h
    rw [Render.block]
    exact .next (succeeds_stmt _ s h.1) fun _ => .next (succeeds_stmts _ rest h.2) fun _ =>
      .pure trivial

theorem succeeds_alternative (depth : Nat) : (ss : List (Stmt P)) → stmtsFit ss →
    Succeeds (Render.alternative depth ss)
  | [], _ => .pure trivial
  | s :: rest, h => by
    have each := h
    rw [stmtsFit, Bool.and_eq_true] at each
    by_cases lone : rest = [] ∧ Render.isIf s
    · obtain ⟨rfl, chained⟩ := lone
      cases s with
      | «if» place test body otherwise =>
        have parts := each.1
        simp only [Stmt.fits, Bool.and_eq_true] at parts
        rw [Render.alternative]
        exact .next (gives_expr _ test parts.1.1) fun _ =>
          .next (succeeds_stmts _ body parts.1.2) fun _ =>
            .next (succeeds_alternative _ otherwise parts.2) fun _ => .pure trivial
      | _ => cases chained
    · rw [Render.alternative_block lone]
      exact .next (succeeds_stmt _ s each.1) fun _ => .next (succeeds_stmts _ rest each.2)
        fun _ => .pure trivial

theorem succeeds_handlers (depth : Nat) (star : Bool) : (hs : List (Handler P)) →
    handlersFit hs → Succeeds (Render.handlers depth star hs)
  | [], _ => .pure trivial
  | .mk type name body :: rest, h => by
    simp only [handlersFit, Bool.and_eq_true] at h
    rw [Render.handlers]
    exact .next (gives_optional type h.1.1) fun _ => .next (succeeds_stmts _ body h.1.2) fun _ =>
      .next (succeeds_handlers _ _ rest h.2) fun _ => .pure trivial

theorem succeeds_cases (depth : Nat) : (cs : List (Case P)) → casesFit cs →
    Succeeds (Render.cases depth cs)
  | [], _ => .pure trivial
  | .mk pattern guard body :: rest, h => by
    simp only [casesFit, Bool.and_eq_true] at h
    rw [Render.cases]
    refine .next (succeeds_pattern _ pattern h.1.1.1) fun _ => ?_
    refine .next (gives_optional guard h.1.1.2) fun _ => ?_
    exact .next (succeeds_stmts _ body h.1.2) fun _ =>
        .next (succeeds_cases _ rest h.2) fun _ => .pure trivial

end

end BodyDigest.Indented
