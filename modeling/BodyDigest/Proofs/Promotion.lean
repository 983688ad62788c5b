import Mathlib.Data.List.DropRight
import BodyDigest.Proofs.Rejection
import BodyDigest.Proofs.Resolution
import BodyDigest.Proofs.Text.Identifiers

/-!
Overloads under the safe forms of their signatures. Such a name is an identifier unless a word
character of the parameters may stand in none, or nothing but underscores is left of the signature;
elsewhere the registry of overloads can be emitted as far as its names go, unless an attribute would
begin with what may not begin an identifier.
-/
namespace BodyDigest

open Emit (underscore staticName startsPrivate endsPrivate)

/-! ### Safe forms -/

namespace CodePoint

/-- What stands for a character in a safe form. -/
def masked (c : CodePoint) : CodePoint := if c.isWord then c else underscore

/-- Whether a safe form shows a character as something else than an underscore. -/
def isVisible (c : CodePoint) : Bool := c.isWord && c ≠ underscore

theorem masked_visible {c : CodePoint} (h : c.isVisible) : c.masked = c := by
  simp only [isVisible, Bool.and_eq_true] at h
  rw [masked, if_pos h.1]

theorem masked_eq_underscore_iff {c : CodePoint} : c.masked = underscore ↔ ¬ c.isVisible := by
  unfold masked isVisible
  split <;> simp_all

theorem underscore_part : underscore.isIdentifierPart := by decide

theorem masked_part {c : CodePoint} (h : c.isWord → c.isIdentifierPart) : c.masked.isIdentifierPart := by
  unfold masked
  split
  · rename_i word
    exact h word
  · exact underscore_part

end CodePoint

open CodePoint (masked isVisible)

/-- The signature that sources make of a name and the text of its parameters. -/
def heading (name params : Text) : Text := name ++ "(" ++ params ++ ")"

variable {name params t : Text} {c : CodePoint}

theorem identifierSafe_eq (t : Text) :
    identifierSafe t = (t.map masked).rdropWhile (· = underscore) := rfl

/-- Nothing but underscores is dropped at the end. -/
theorem masked_split (t : Text) : ∃ marks, t.map masked = identifierSafe t ++ marks ∧
    ∀ c ∈ marks, c = underscore := by
  refine ⟨(t.map masked).rtakeWhile (· = underscore), ?_, ?_⟩
  · rw [identifierSafe_eq, List.rdropWhile_append_rtakeWhile]
  · intro c member
    simpa using List.mem_rtakeWhile_imp member

theorem mem_identifierSafe (member : c ∈ identifierSafe t) : ∃ d ∈ t, c = d.masked := by
  obtain ⟨marks, split, -⟩ := masked_split t
  have inside : c ∈ t.map masked := split ▸ List.mem_append_left marks member
  obtain ⟨d, listed, rfl⟩ := List.mem_map.mp inside
  exact ⟨d, listed, rfl⟩

theorem visible_mem_identifierSafe (member : c ∈ t) (visible : c.isVisible) : c ∈ identifierSafe t := by
  obtain ⟨marks, split, dropped⟩ := masked_split t
  have inside : c ∈ identifierSafe t ++ marks :=
    split ▸ CodePoint.masked_visible visible ▸ List.mem_map_of_mem member
  rcases List.mem_append.mp inside with kept | gone
  · exact kept
  · have shown : ¬ c.isVisible := by
      rw [dropped c gone]
      decide
    exact absurd visible shown

/-- The first character that a safe form shows. -/
theorem find?_identifierSafe (t : Text) :
    (identifierSafe t).find? (· ≠ underscore) = t.find? isVisible := by
  obtain ⟨marks, split, dropped⟩ := masked_split t
  have none_dropped : marks.find? (· ≠ underscore) = none := by
    simpa using dropped
  have shown : (t.map masked).find? (· ≠ underscore) = (t.find? isVisible).map masked := by
    rw [List.find?_map]
    congr 2
    funext c
    simp [CodePoint.masked_eq_underscore_iff]
  rw [split, List.find?_append, none_dropped, Option.or_none] at shown
  rw [shown]
  cases found : t.find? isVisible with
  | none => rfl
  | some c => rw [Option.map_some, CodePoint.masked_visible (List.find?_some found)]

theorem identifierSafe_ne_nil_iff : identifierSafe t ≠ [] ↔ ∃ c ∈ t, c.isVisible := by
  constructor
  · intro some_text
    by_contra hidden
    apply some_text
    rw [identifierSafe_eq, List.rdropWhile_eq_nil_iff, List.forall_mem_map]
    intro c member
    have unseen : ¬ c.isVisible := fun visible => hidden ⟨c, member, visible⟩
    simpa using CodePoint.masked_eq_underscore_iff.mpr unseen
  · rintro ⟨c, member, visible⟩
    exact List.ne_nil_of_mem (visible_mem_identifierSafe member visible)

theorem identifierSafe_open_end (visible : ∃ c ∈ t, c.isVisible) : ¬ endsPrivate (identifierSafe t) := by
  intro marked
  obtain ⟨front, whole⟩ := List.isSuffixOf_iff_suffix.mp marked
  have some_text := identifierSafe_ne_nil_iff.mpr visible
  have last := List.rdropWhile_last_not (· = underscore) (t.map masked) some_text
  rw [decide_eq_true_eq] at last
  apply last
  change (identifierSafe t).getLast some_text = underscore
  have two : ("__" : Text) = [underscore] ++ [underscore] := rfl
  simp only [← whole, two, ← List.append_assoc, List.getLast_concat]

theorem head?_identifierSafe (visible : ∃ c ∈ t, c.isVisible) :
    (identifierSafe t).head? = t.head?.map masked := by
  obtain ⟨marks, split, -⟩ := masked_split t
  obtain ⟨c, rest, safe⟩ := List.exists_cons_of_ne_nil (identifierSafe_ne_nil_iff.mpr visible)
  rw [← List.head?_map, split, safe]
  rfl

/-! ### Which safe forms are identifiers -/

theorem find?_heading (name params : Text) :
    (heading name params).find? isVisible = (name ++ params).find? isVisible := by
  have opened : ("(" : Text).find? isVisible = none := by decide
  have closed : (")" : Text).find? isVisible = none := by decide
  simp only [heading, List.find?_append, opened, closed, Option.or_none]

theorem visible_heading_iff :
    (∃ c ∈ heading name params, c.isVisible) ↔ ∃ c ∈ name ++ params, c.isVisible := by
  rw [← List.find?_isSome, find?_heading, List.find?_isSome]

/-- Something is left of the signature but underscores, and the parameters show no character that
may not stand in an identifier. -/
structure IsSpeakable (name params : Text) : Prop where
  visible : ∃ c ∈ name ++ params, c.isVisible
  parts : ∀ c ∈ params, c.isWord → c.isIdentifierPart

theorem isSpeakable_iff : IsSpeakable name params ↔
    (∃ c ∈ name ++ params, c.isVisible) ∧ ∀ c ∈ params, c.isWord → c.isIdentifierPart :=
  ⟨fun h => ⟨h.visible, h.parts⟩, fun h => ⟨h.1, h.2⟩⟩

instance (name params : Text) : Decidable (IsSpeakable name params) := decidable_of_iff' _ isSpeakable_iff

theorem part_of_heading (named : name.isIdentifier) (parts : ∀ c ∈ params, c.isWord → c.isIdentifierPart)
    (member : c ∈ heading name params) (word : c.isWord) : c.isIdentifierPart := by
  simp only [heading, List.mem_append] at member
  obtain ((inside | opened) | inside) | closed := member
  · exact (Text.isIdentifier_iff.mp named).2 c inside
  · obtain rfl := List.mem_singleton.mp opened
    exact absurd word (by decide)
  · exact parts c inside word
  · obtain rfl := List.mem_singleton.mp closed
    exact absurd word (by decide)

theorem masked_start (h : c.isIdentifierStart) : c.masked.isIdentifierStart := by
  unfold CodePoint.masked
  split
  · exact h
  · decide

theorem identifierSafe_isIdentifier_iff (named : name.isIdentifier) :
    (identifierSafe (heading name params)).isIdentifier ↔ IsSpeakable name params := by
  rw [Text.isIdentifier_iff]
  constructor
  · rintro ⟨start, parts⟩
    have some_text : identifierSafe (heading name params) ≠ [] := by
      intro nothing
      rw [nothing] at start
      cases start
    refine ⟨visible_heading_iff.mp (identifierSafe_ne_nil_iff.mp some_text), ?_⟩
    intro c member word
    by_cases mark : c = underscore
    · rw [mark]
      exact CodePoint.underscore_part
    · have inside : c ∈ heading name params := by simp [heading, member]
      exact parts c (visible_mem_identifierSafe inside (by simp [CodePoint.isVisible, word, mark]))
  · rintro ⟨visible, parts⟩
    constructor
    · rw [head?_identifierSafe (visible_heading_iff.mpr visible)]
      cases name with
      | nil => cases named
      | cons c rest =>
        have start : c.isIdentifierStart := (Bool.and_eq_true_iff.mp named).1
        exact masked_start start
    · intro c member
      obtain ⟨d, inside, rfl⟩ := mem_identifierSafe member
      exact CodePoint.masked_part (part_of_heading named parts inside)

/-! ### Which attributes are identifiers -/

theorem marked_isIdentifier_iff (some_text : t ≠ []) :
    Text.isIdentifier (t ++ [underscore]) ↔ t.isIdentifier := by
  obtain ⟨c, rest, rfl⟩ := List.exists_cons_of_ne_nil some_text
  rw [Text.isIdentifier_iff, Text.isIdentifier_iff, List.forall_mem_append, List.forall_mem_singleton]
  simp only [CodePoint.underscore_part, and_true]
  exact Iff.rfl

theorem startsPrivate_identifierSafe_iff {a b : CodePoint} {rest : Text}
    (visible : ∃ c ∈ a :: b :: rest, c.isVisible) :
    startsPrivate (identifierSafe (a :: b :: rest)) ↔ ¬ a.isVisible ∧ ¬ b.isVisible := by
  obtain ⟨marks, split, -⟩ := masked_split (a :: b :: rest)
  obtain ⟨c, inside, plain⟩ := visible
  have kept := visible_mem_identifierSafe inside plain
  have other : c ≠ underscore := by
    rintro rfl
    cases plain
  rw [List.map_cons, List.map_cons] at split
  rw [← CodePoint.masked_eq_underscore_iff, ← CodePoint.masked_eq_underscore_iff, startsPrivate,
    List.isPrefixOf_iff_prefix]
  generalize identifierSafe (a :: b :: rest) = safe at split kept
  match safe with
  | [] => cases kept
  | [d] =>
    obtain rfl := List.mem_singleton.mp kept
    have first : a.masked = c := (List.cons.inj split).1
    constructor
    · rintro ⟨more, longer⟩
      cases longer
    · rintro ⟨same, -⟩
      exact absurd (first.symm.trans same) other
  | d :: e :: later =>
    obtain ⟨first, split⟩ := List.cons.inj split
    obtain ⟨second, -⟩ := List.cons.inj split
    have two : ("__" : Text) = [underscore, underscore] := rfl
    rw [first, second, two]
    simp [List.cons_prefix_cons, eq_comm]

/-- A name of which a class would hide what begins with it: its first two characters, or its only
one, are masked by underscores. -/
def OpensPrivately (name : Text) : Prop := ∀ c ∈ name.take 2, ¬ c.isVisible

instance (name : Text) : Decidable (OpensPrivately name) :=
  inferInstanceAs (Decidable (∀ c ∈ name.take 2, ¬ c.isVisible))

theorem heading_private_iff (named : name.isIdentifier) (visible : ∃ c ∈ name ++ params, c.isVisible) :
    startsPrivate (identifierSafe (heading name params)) ↔ OpensPrivately name := by
  have shown := visible_heading_iff.mpr visible
  match name with
  | [] => cases named
  | [a] =>
    have bare : ¬ (CodePoint.char '(').isVisible := by decide
    have opens : OpensPrivately [a] ↔ ¬ a.isVisible := by simp [OpensPrivately]
    rw [opens]
    exact (startsPrivate_identifierSafe_iff shown).trans (and_iff_left bare)
  | a :: b :: rest =>
    have opens : OpensPrivately (a :: b :: rest) ↔ ¬ a.isVisible ∧ ¬ b.isVisible := by
      simp [OpensPrivately]
    rw [opens]
    exact startsPrivate_identifierSafe_iff shown

/-- A promoted name that is an identifier, and stays one where a class asks for another attribute. -/
structure IsPresentable (name params : Text) : Prop extends IsSpeakable name params where
  start : OpensPrivately name → ∀ c, (name ++ params).find? isVisible = some c → c.isIdentifierStart

theorem isPresentable_iff : IsPresentable name params ↔ IsSpeakable name params ∧
    (OpensPrivately name → ∀ c ∈ (name ++ params).find? isVisible, c.isIdentifierStart) :=
  ⟨fun h => ⟨h.toIsSpeakable, h.start⟩, fun h => ⟨h.1, h.2⟩⟩

instance (name params : Text) : Decidable (IsPresentable name params) :=
  decidable_of_iff' _ isPresentable_iff

/-- Without the underscores in front an identifier is one if the next character may start one. -/
theorem bare_isIdentifier_iff (ident : t.isIdentifier) (found : t.find? (· ≠ underscore) = some c) :
    Text.isIdentifier (t.dropWhile (· = underscore)) ↔ c.isIdentifierStart := by
  have first : (t.dropWhile (· = underscore)).head? = some c := by
    rw [← found, List.find?_eq_head?_dropWhile_not]
    simp
  have parts : ∀ d ∈ t.dropWhile (· = underscore), d.isIdentifierPart := fun d member =>
    (Text.isIdentifier_iff.mp ident).2 d ((List.dropWhile_suffix _).subset member)
  rw [Text.isIdentifier_iff, first]
  simpa using fun _ => parts

theorem parts_of_bare (ident : Text.isIdentifier (t.dropWhile (· = underscore))) :
    ∀ d ∈ t, d.isIdentifierPart := by
  intro d member
  rw [← List.takeWhile_append_dropWhile (p := (· = underscore)) (l := t)] at member
  rcases List.mem_append.mp member with mark | inside
  · have same : d = underscore := by simpa using List.mem_takeWhile_imp mark
    rw [same]
    exact CodePoint.underscore_part
  · exact (Text.isIdentifier_iff.mp ident).2 d inside

theorem attribute_isIdentifier_iff (named : name.isIdentifier) :
    (staticName (identifierSafe (heading name params))).isIdentifier ↔ IsPresentable name params := by
  by_cases visible : ∃ c ∈ name ++ params, c.isVisible
  · have shown := visible_heading_iff.mpr visible
    have some_text := identifierSafe_ne_nil_iff.mpr shown
    have open_end : endsPrivate (identifierSafe (heading name params)) = false := by
      simpa using identifierSafe_open_end shown
    have safe_iff : (identifierSafe (heading name params)).isIdentifier ↔ IsSpeakable name params :=
      identifierSafe_isIdentifier_iff named
    rw [staticName, open_end, Bool.not_false, Bool.and_true]
    by_cases opens : startsPrivate (identifierSafe (heading name params))
    · have privately := (heading_private_iff named visible).mp opens
      obtain ⟨c, found⟩ := Option.isSome_iff_exists.mp (List.find?_isSome.mpr visible)
      have first := find?_identifierSafe (heading name params)
      rw [find?_heading, found] at first
      obtain ⟨d, rest, bare, -⟩ := Emit.bare_of_private opens (by simp [open_end])
      rw [if_pos opens, marked_isIdentifier_iff (by simp [bare])]
      constructor
      · intro ident
        have speakable : IsSpeakable name params := by
          rw [← safe_iff, Text.isIdentifier_iff, head?_identifierSafe shown]
          refine ⟨?_, parts_of_bare ident⟩
          cases name with
          | nil => cases named
          | cons e _ =>
            have start : e.isIdentifierStart := (Bool.and_eq_true_iff.mp named).1
            exact masked_start start
        refine ⟨speakable, fun _ e same => ?_⟩
        obtain rfl := Option.some.inj (found.symm.trans same)
        exact (bare_isIdentifier_iff (safe_iff.mpr speakable) first).mp ident
      · intro presentable
        exact (bare_isIdentifier_iff (safe_iff.mpr presentable.toIsSpeakable) first).mpr
          (presentable.start privately c found)
    · have visibly : ¬ OpensPrivately name := fun privately =>
        opens ((heading_private_iff named visible).mpr privately)
      have kept : IsPresentable name params ↔ IsSpeakable name params :=
        ⟨fun h => h.toIsSpeakable, fun h => ⟨h, fun privately => absurd privately visibly⟩⟩
      rw [if_neg opens, kept, ← safe_iff]
      split
      · exact marked_isIdentifier_iff some_text
      · exact Iff.rfl
  · have nothing : identifierSafe (heading name params) = [] := by
      by_contra some_text
      exact visible (visible_heading_iff.mp (identifierSafe_ne_nil_iff.mp some_text))
    rw [nothing]
    constructor
    · intro ident
      exact absurd ident (by decide)
    · intro presentable
      exact absurd presentable.visible visible

/-! ### Names that emission refuses -/

namespace Emit

theorem claim_notIdentifier {subject about : Subject} {name shown : Text} {taken : List (Text × Text)}
    (refused : claim subject name taken = .error (.notIdentifier about shown)) :
    ¬ name.isIdentifier := by
  intro ident
  rw [claim, ident] at refused
  simp only [Bool.not_true, Bool.false_eq_true, if_false] at refused
  cases found : taken.lookup name with
  | none => simp [found] at refused
  | some holder => simp [found] at refused

/-- An attribute that is refused for its form belongs to a key of this level or of one below it. -/
theorem claimAll_notIdentifier {α : Type} {subject : Text → Subject} {name : Text → Text}
    {make : Text → Except EmissionError α} {taken : List (Text × Text)} {keys : List Text}
    {about : Subject} {shown : Text}
    (refused : claimAll subject name make taken keys = .error (.notIdentifier about shown)) :
    ∃ k ∈ keys, ¬ (name k).isIdentifier ∨ make k = .error (.notIdentifier about shown) := by
  induction keys generalizing taken with
  | nil => cases refused
  | cons key rest ih =>
    rw [claimAll] at refused
    cases claimed : claim (subject key) (name key) taken with
    | error e =>
      rw [claimed] at refused
      cases refused
      exact ⟨key, List.mem_cons_self, .inl (claim_notIdentifier claimed)⟩
    | ok _ =>
      cases made : make key with
      | error e =>
        rw [claimed, made] at refused
        cases refused
        exact ⟨key, List.mem_cons_self, .inr made⟩
      | ok view =>
        cases later : claimAll subject name make ((name key, key) :: taken) rest with
        | error e =>
          rw [claimed, made, later] at refused
          cases refused
          obtain ⟨k, member, cause⟩ := ih later
          exact ⟨k, List.mem_cons_of_mem _ member, cause⟩
        | ok views =>
          rw [claimed, made, later] at refused
          cases refused

variable {about : Subject} {named : Text} {entries : List Entry} {key scope : Text}

theorem makeMember_notIdentifier : makeMember entries key ≠ .error (.notIdentifier about named) := by
  unfold makeMember
  split <;> simp

theorem makeType_notIdentifier
    (refused : makeType scope entries key = .error (.notIdentifier about named)) :
    ∃ e ∈ entries, ¬ (staticName e.key.member).isIdentifier := by
  rw [makeType_eq] at refused
  obtain ⟨k, member, cause⟩ := claimAll_notIdentifier (error_of_map refused)
  obtain ⟨e, inside, rfl⟩ := List.mem_map.mp (mem_sortedKeys.mp member)
  rcases cause with bad | below
  · exact ⟨e, List.mem_of_mem_filter inside, bad⟩
  · exact absurd below makeMember_notIdentifier

theorem makeContainer_notIdentifier
    (refused : makeContainer entries key = .error (.notIdentifier about named)) :
    ∃ e ∈ entries, ¬ (staticName e.key.type).isIdentifier ∨ ¬ (staticName e.key.member).isIdentifier := by
  rw [makeContainer_eq] at refused
  obtain ⟨k, member, cause⟩ := claimAll_notIdentifier (error_of_map refused)
  obtain ⟨e, inside, rfl⟩ := List.mem_map.mp (mem_sortedKeys.mp member)
  rcases cause with bad | below
  · exact ⟨e, List.mem_of_mem_filter inside, .inl bad⟩
  · obtain ⟨f, listed, bad⟩ := makeType_notIdentifier below
    exact ⟨f, List.mem_of_mem_filter listed, .inr bad⟩

/-- Only a key with an attribute that is none is refused as no identifier. -/
theorem views_notIdentifier {r : Registry} (refused : views r = .error (.notIdentifier about named)) :
    ∃ k ∈ Diff.keys r, Unnameable k := by
  rw [views_eq_claimAll] at refused
  obtain ⟨k, member, cause⟩ := claimAll_notIdentifier refused
  obtain ⟨e, inside, rfl⟩ := List.mem_map.mp (mem_sortedKeys.mp member)
  rcases cause with bad | below
  · exact ⟨e.key, List.mem_map_of_mem inside, .inl bad⟩
  · obtain ⟨f, listed, bad⟩ := makeContainer_notIdentifier below
    exact ⟨f.key, List.mem_map_of_mem listed, .inr bad⟩

end Emit

/-! ### Promoted records -/

namespace Record

/-- What stands between the parentheses behind the name. -/
def parameters (r : Record) : Text := (r.signature.drop r.member.length).tail.dropLast

/-- A record as a source describes it: its name is an identifier, and its signature is the name with
parameters in parentheses. -/
structure IsDeclared (r : Record) : Prop where
  member : r.member.isIdentifier
  signature : ∃ params, r.signature = heading r.member params

/-- Another record of the same namespace and type has the same name. -/
def IsOverloaded (records : List Record) (r : Record) : Prop :=
  1 < records.countP fun s => s.group = r.group && s.member = r.member

instance (records : List Record) (r : Record) : Decidable (r.IsOverloaded records) :=
  inferInstanceAs (Decidable (1 < _))

/-- Under its own name a record has attributes that are identifiers. -/
structure IsEmittable (r : Record) : Prop where
  scope : (Emit.containerName r.scope).isIdentifier
  type : (staticName r.type).isIdentifier
  member : (staticName r.member).isIdentifier

theorem parameters_of_heading {r : Record} {params : Text} (form : r.signature = heading r.member params) :
    r.parameters = params := by
  have opened : heading r.member params = r.member ++ .char '(' :: (params ++ [.char ')']) := by
    rw [heading, List.append_assoc, List.append_assoc]
    rfl
  rw [parameters, form, opened, List.drop_left, List.tail_cons, List.dropLast_concat]

theorem isDeclared_iff {r : Record} :
    r.IsDeclared ↔ r.member.isIdentifier ∧ r.signature = heading r.member r.parameters := by
  constructor
  · rintro ⟨member, params, form⟩
    exact ⟨member, (parameters_of_heading form).symm ▸ form⟩
  · rintro ⟨member, form⟩
    exact ⟨member, _, form⟩

instance (r : Record) : Decidable r.IsDeclared := decidable_of_iff' _ isDeclared_iff

theorem isEmittable_iff {r : Record} : r.IsEmittable ↔ (Emit.containerName r.scope).isIdentifier ∧
    (staticName r.type).isIdentifier ∧ (staticName r.member).isIdentifier :=
  ⟨fun h => ⟨h.scope, h.type, h.member⟩, fun h => ⟨h.1, h.2.1, h.2.2⟩⟩

instance (r : Record) : Decidable r.IsEmittable := decidable_of_iff' _ isEmittable_iff

end Record

variable {records resolved : List Record} {r s : Record}

theorem mem_resolved_iff (named : resolve records = .ok resolved) :
    r ∈ resolved ↔ ∃ s ∈ records, s.due records = r := by
  obtain ⟨-, rfl⟩ := resolve_ok_iff_apart.mp named
  rw [(inGroups_perm records).mem_iff, List.mem_map]

theorem dueName_promoted (overloaded : s.IsOverloaded records) (declared : s.IsDeclared) :
    dueName records s = identifierSafe (heading s.member s.parameters) := by
  rw [← (Record.isDeclared_iff.mp declared).2]
  exact if_pos overloaded

theorem dueName_own (alone : ¬ s.IsOverloaded records) : dueName records s = s.member :=
  if_neg alone

theorem dueName_isIdentifier_iff (declared : s.IsDeclared) :
    (dueName records s).isIdentifier ↔
      (s.IsOverloaded records → IsSpeakable s.member s.parameters) := by
  by_cases overloaded : s.IsOverloaded records
  · rw [dueName_promoted overloaded declared, identifierSafe_isIdentifier_iff declared.member]
    simp [overloaded]
  · simp [dueName_own overloaded, overloaded, declared.member]

theorem attribute_due_iff (declared : s.IsDeclared) (emittable : s.IsEmittable) :
    (staticName (dueName records s)).isIdentifier ↔
      (s.IsOverloaded records → IsPresentable s.member s.parameters) := by
  by_cases overloaded : s.IsOverloaded records
  · rw [dueName_promoted overloaded declared, attribute_isIdentifier_iff declared.member]
    simp [overloaded]
  · simp [dueName_own overloaded, overloaded, emittable.member]

theorem unnameable_due_iff (declared : s.IsDeclared) (emittable : s.IsEmittable) :
    Emit.Unnameable (Registry.Record.entry (s.due records)).key ↔
      s.IsOverloaded records ∧ ¬ IsPresentable s.member s.parameters := by
  have own : (staticName (dueName records s)).isIdentifier ↔
      (s.IsOverloaded records → IsPresentable s.member s.parameters) :=
    attribute_due_iff declared emittable
  have scope := emittable.scope
  have type := emittable.type
  simp only [Emit.Unnameable, Registry.Record.entry, Record.due, scope, type, own]
  simp

/-- Where names are identifiers and signatures hold parameters behind them, resolution gives only
identifiers, except to overloads of which nothing visible is left or whose parameters show a
character that stands in no identifier. Where all records could be emitted under their own names,
their registry is refused for a name that is no identifier only because of such an overload, or of
one with a private name behind whose underscores no identifier begins; and with one of these it is
not emitted. -/
theorem promoted_names_are_identifiers_iff (declared : ∀ r ∈ records, r.IsDeclared)
    (named : resolve records = .ok resolved) :
    (∀ r ∈ resolved, r.resolved.isIdentifier ↔
      (r.IsOverloaded records → IsSpeakable r.member r.parameters)) ∧
    ∃ registry, Registry.build resolved = .ok registry ∧
      ∀ root, Emit.checkRoot root = .ok () → (∀ r ∈ records, r.IsEmittable) →
        ((∃ about shown, Emit.emit [] root registry = .error (.registry (.notIdentifier about shown))) →
          ∃ r ∈ resolved, r.IsOverloaded records ∧ ¬ IsPresentable r.member r.parameters) ∧
        ((∃ r ∈ resolved, r.IsOverloaded records ∧ ¬ IsPresentable r.member r.parameters) →
          ∃ e, Emit.emit [] root registry = .error (.registry e)) := by
  constructor
  · intro r member
    obtain ⟨s, listed, rfl⟩ := (mem_resolved_iff named).mp member
    exact dueName_isIdentifier_iff (declared s listed)
  · obtain ⟨registry, built, entries⟩ := Registry.build_of_resolve named
    refine ⟨registry, built, fun root valid emittable => ?_⟩
    have keys : Diff.keys registry = resolved.map fun r => (Registry.Record.entry r).key := by
      rw [Diff.keys, entries, List.map_map]
      rfl
    constructor
    · rintro ⟨about, shown, refused⟩
      obtain ⟨cause, views, same⟩ := (Emit.emit_error_iff valid).mp refused
      obtain rfl := Emit.EmitError.registry.inj same
      obtain ⟨k, member, unnameable⟩ := Emit.views_notIdentifier views
      rw [keys] at member
      obtain ⟨r, inside, rfl⟩ := List.mem_map.mp member
      obtain ⟨s, listed, rfl⟩ := (mem_resolved_iff named).mp inside
      exact ⟨_, inside, (unnameable_due_iff (declared s listed) (emittable s listed)).mp unnameable⟩
    · rintro ⟨r, inside, faulty⟩
      obtain ⟨s, listed, rfl⟩ := (mem_resolved_iff named).mp inside
      have unnameable := (unnameable_due_iff (declared s listed) (emittable s listed)).mpr faulty
      have losing : Emit.Losing (Diff.keys registry) :=
        .inl ⟨_, keys ▸ List.mem_map_of_mem inside, unnameable⟩
      obtain ⟨cause, views⟩ := (Emit.views_error_iff registry).mpr losing
      exact ⟨cause, (Emit.emit_error_iff valid).mpr ⟨cause, views, rfl⟩⟩

/-- Overloads of a name, a name of underscores that is overloaded as well, and a name of its own. -/
def overloadedRecords : List Record := [
  ⟨"N", "T", "f", "f", "f(List<int>)", "1", none⟩,
  ⟨"N", "T", "f", "f", "f(größe: int, *Any)", "2", none⟩,
  ⟨"N", "T", "_", "_", "_(int)", "3", none⟩,
  ⟨"N", "T", "_", "_", "_(str)", "4", none⟩,
  ⟨"N", "T", "g", "g", "g(m²)", "5", none⟩]

theorem overloads_get_identifiers : (∀ r ∈ overloadedRecords, r.IsDeclared) ∧
    ∃ resolved, resolve overloadedRecords = .ok resolved ∧ (∀ r ∈ resolved, r.resolved.isIdentifier) ∧
      ∃ registry, Registry.build resolved = .ok registry ∧ ∀ about shown,
        Emit.emit [] "HashStamps" registry ≠ .error (.registry (.notIdentifier about shown)) := by
  have declared : ∀ r ∈ overloadedRecords, r.IsDeclared := by decide +kernel
  have emittable : ∀ r ∈ overloadedRecords, r.IsEmittable := by decide +kernel
  have named : resolve overloadedRecords = .ok (inGroups overloadedRecords) := by decide +kernel
  have presentable : ∀ r ∈ inGroups overloadedRecords,
      r.IsOverloaded overloadedRecords → IsPresentable r.member r.parameters := by decide +kernel
  obtain ⟨identifiers, registry, built, emission⟩ := promoted_names_are_identifiers_iff declared named
  refine ⟨declared, _, named, ?_, registry, built, fun about shown refused => ?_⟩
  · intro r member
    exact (identifiers r member).mpr fun overloaded => (presentable r member overloaded).toIsSpeakable
  · obtain ⟨r, member, overloaded, faulty⟩ :=
      (emission "HashStamps" (by decide) emittable).1 ⟨about, shown, refused⟩
    exact faulty (presentable r member overloaded)

/-- A superscript two is a word character that stands in no identifier, and underscores are dropped
at the end of a signature even if nothing else is there. -/
def unspeakableRecords : List Record := [
  ⟨"N", "T", "f", "f", "f('m²')", "1", none⟩,
  ⟨"N", "T", "f", "f", "f(int)", "2", none⟩,
  ⟨"N", "T", "_", "_", "_()", "3", none⟩,
  ⟨"N", "T", "_", "_", "_(1)", "4", none⟩]

theorem safe_forms_are_no_identifiers : (∀ r ∈ unspeakableRecords, r.IsDeclared) ∧
    ∃ resolved, resolve unspeakableRecords = .ok resolved ∧
      (resolved.map fun r => (r.resolved, r.resolved.isIdentifier)) =
        ([("f__m²", false), ("f_int", true), ("", false), ("__1", true)] : List (Text × Bool)) ∧
      (staticName "__1").isIdentifier = false := by
  exact ⟨by decide +kernel, inGroups unspeakableRecords, by decide +kernel, by decide +kernel, by decide⟩

end BodyDigest
