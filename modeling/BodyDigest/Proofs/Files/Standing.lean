import BodyDigest.Proofs.Files.Places

/-!
What stands at each place before and after a file is written. A path without steps upwards is
written at once or not at all: nothing is made before a place that is in the way is seen.
-/
namespace BodyDigest

/-- What stands at a place. -/
inductive Standing where
  | nothing
  | directory
  | file (octets : List UInt8)
  deriving DecidableEq

namespace Tree

variable {t u v : Tree} {here rest target q : List Text} {name : Text}
variable {es : List (Text × Tree)} {octets : List UInt8}

def standing (t : Tree) (names : List Text) : Standing :=
  match t.get names with
  | .error _ => .nothing
  | .ok (.directory _) => .directory
  | .ok (.file octets) => .file octets

theorem standing_directory_iff :
    t.standing q = .directory ↔ ∃ es, t.get q = .ok (.directory es) := by
  rw [standing]
  split <;> simp_all

theorem standing_nothing_iff : t.standing q = .nothing ↔ (t.get q).isOk = false := by
  rw [standing]
  split <;> simp_all [Except.isOk, Except.toBool]

theorem standing_file_iff : t.standing q = .file octets ↔ t.get q = .ok (.file octets) := by
  rw [standing]
  split <;> simp_all

/-- Above a directory there are directories. -/
theorem standing_above (found : t.get here = .ok (.directory es)) (above : q <+: here) :
    t.standing q = .directory := by
  obtain ⟨rest, rfl⟩ := above
  rw [standing_directory_iff]
  by_cases last : rest = []
  · subst last
    rw [List.append_nil] at found
    exact ⟨es, found⟩
  · exact directory_of_below found last

/-- A file at `target` in the place of a file or of nothing, with the directories that lead to it.
Nothing else has changed. -/
structure Replaces (t u : Tree) (target : List Text) (octets : List UInt8) : Prop where
  holds : u.standing target = .file octets
  before : t.standing target ≠ .directory
  above : ∀ q, q <+: target → q ≠ target →
    u.standing q = .directory ∧ (t.standing q = .directory ∨ t.standing q = .nothing)
  others : ∀ q, ¬ q <+: target → u.standing q = t.standing q

/-- Directories along `names`, some of which are new. Nothing else has changed. -/
structure Makes (names : List Text) (t u : Tree) : Prop where
  along : ∀ q, q <+: names →
    u.standing q = .directory ∧ (t.standing q = .directory ∨ t.standing q = .nothing)
  others : ∀ q, ¬ q <+: names → u.standing q = t.standing q

theorem Makes.of_directory (found : t.get here = .ok (.directory es)) : Makes here t t where
  along := fun _ above => ⟨standing_above found above, .inl (standing_above found above)⟩
  others := fun _ _ => rfl

/-- Something is put under a name that the directory at `here` does not hold as a directory. -/
theorem standing_put (parent : t.get here = .ok (.directory es)) (new : Tree)
    (other : q ≠ here ++ [name]) (above : ¬ q <+: here)
    (before : t.standing (here ++ [name]) ≠ .directory)
    (bare : new = .directory [] ∨ ∃ octets, new = .file octets) :
    (put new (here ++ [name]) t).standing q = t.standing q := by
  by_cases below : here ++ [name] <+: q
  · obtain ⟨rest, rfl⟩ := below
    have inside : rest ≠ [] := by
      rintro rfl
      exact other (List.append_nil _)
    have nothing_before : t.standing (here ++ [name] ++ rest) = .nothing := by
      rw [standing_nothing_iff, Bool.eq_false_iff]
      intro held
      cases found : t.get (here ++ [name] ++ rest) with
      | error e =>
        rw [found] at held
        cases held
      | ok v =>
        exact before (standing_directory_iff.mpr (directory_of_below found inside))
    rw [nothing_before, standing_nothing_iff, get_append, get_put_self parent]
    obtain ⟨n, rest, rfl⟩ := List.exists_cons_of_ne_nil inside
    obtain rfl | ⟨octets, rfl⟩ := bare
    · change ((Tree.directory []).get (n :: rest)).isOk = false
      rw [get]
      rfl
    · change ((Tree.file octets).get (n :: rest)).isOk = false
      rw [get_file_cons]
      rfl
  · rw [standing, standing, get_put_apart parent new below above]

theorem prefix_concat (h : q <+: here ++ [name]) : q = here ++ [name] ∨ q <+: here :=
  List.prefix_concat_iff.mp h

theorem not_prefix_of_concat (here : List Text) (name : Text) : ¬ here ++ [name] <+: here := by
  intro inside
  exact absurd inside.length_le (by simp)

/-- One more directory that is there already. -/
theorem Makes.known (made : Makes here t u) (found : u.get (here ++ [name]) = .ok (.directory es)) :
    Makes (here ++ [name]) t u where
  along := by
    intro q along
    refine ⟨standing_above found along, ?_⟩
    obtain rfl | above := prefix_concat along
    · rw [← made.others _ (not_prefix_of_concat here name)]
      exact .inl (standing_directory_iff.mpr ⟨es, found⟩)
    · exact (made.along q above).2
  others := fun q apart => made.others q fun above => apart (above.trans (List.prefix_append _ _))

/-- One more directory that is new. -/
theorem Makes.step (made : Makes here t u) (parent : u.get here = .ok (.directory es))
    (missing : u.standing (here ++ [name]) = .nothing) :
    Makes (here ++ [name]) t (put (.directory []) (here ++ [name]) u) := by
  have self := get_put_self parent name (.directory [])
  constructor
  · intro q along
    refine ⟨standing_above self along, ?_⟩
    obtain rfl | above := prefix_concat along
    · rw [← made.others _ (not_prefix_of_concat here name)]
      exact .inr missing
    · exact (made.along q above).2
  · intro q apart
    have above : ¬ q <+: here := fun above => apart (above.trans (List.prefix_append _ _))
    have other : q ≠ here ++ [name] := by
      rintro rfl
      exact apart (List.prefix_refl _)
    rw [standing_put parent _ other above (by rw [missing]; simp) (.inl rfl), made.others q above]

/-! ### Making directories -/

theorem plain_cons {part : Text} (plain : Path.upwards ∉ part :: rest) :
    part ≠ Path.upwards ∧ Path.upwards ∉ rest := by
  rw [List.mem_cons, not_or] at plain
  exact ⟨Ne.symm plain.1, plain.2⟩

section MakeDirectories

variable {asked : Path} {followed : List Text} {isMaking : Bool}

theorem makeDirectories_makes (plain : Path.upwards ∉ rest) (made : Makes here t u)
    (parent : ∃ es, u.get here = .ok (.directory es))
    (ok : makeDirectories asked u here followed isMaking rest = .ok v) :
    Makes (here ++ rest) t v ∧ ∃ es, v.get (here ++ rest) = .ok (.directory es) := by
  induction rest generalizing u here followed isMaking with
  | nil =>
    rw [makeDirectories] at ok
    cases ok
    rw [List.append_nil]
    exact ⟨made, parent⟩
  | cons part rest ih =>
    obtain ⟨named, plain⟩ := plain_cons plain
    rw [makeDirectories, if_neg named] at ok
    obtain ⟨es, parent⟩ := parent
    have place : here ++ part :: rest = here ++ [part] ++ rest := by simp
    rw [place]
    cases found : u.get (here ++ [part]) with
    | ok w =>
      cases w with
      | directory fs =>
        simp only [found] at ok
        exact ih plain (made.known found) ⟨fs, found⟩ ok
      | file octets =>
        simp only [found] at ok
        split at ok
        · cases ok
        · split at ok <;> cases ok
    | error e =>
      simp only [found] at ok
      have missing : u.standing (here ++ [part]) = .nothing := by
        rw [standing, found]
      exact ih plain (made.step parent missing) ⟨[], get_put_self parent part _⟩ ok

/-- In an empty directory nothing is in the way. -/
theorem makeDirectories_of_empty (plain : Path.upwards ∉ rest)
    (empty : t.get here = .ok (.directory [])) :
    ∃ u, makeDirectories asked t here followed isMaking rest = .ok u := by
  induction rest generalizing t here followed isMaking with
  | nil => exact ⟨t, by rw [makeDirectories]⟩
  | cons part rest ih =>
    obtain ⟨named, plain⟩ := plain_cons plain
    have missing : t.get (here ++ [part]) = .error .missing := by
      rw [get_append, empty]
      change (Tree.directory []).get [part] = _
      rw [get]
      rfl
    rw [makeDirectories, if_neg named]
    simp only [missing]
    exact ih plain (get_put_self empty part _)

/-- What is in the way is seen before anything is made. -/
theorem makeDirectories_fails {e : WriteFault} (plain : Path.upwards ∉ rest)
    (failed : makeDirectories asked t here followed isMaking rest = .error e)
    (parent : ∃ es, t.get here = .ok (.directory es)) : e.left = t := by
  induction rest generalizing here followed with
  | nil =>
    rw [makeDirectories] at failed
    cases failed
  | cons part rest ih =>
    obtain ⟨named, plain⟩ := plain_cons plain
    rw [makeDirectories, if_neg named] at failed
    obtain ⟨es, parent⟩ := parent
    cases found : t.get (here ++ [part]) with
    | ok w =>
      cases w with
      | directory fs =>
        simp only [found] at failed
        exact ih plain failed ⟨fs, found⟩
      | file octets =>
        simp only [found] at failed
        split at failed <;> cases failed <;> rfl
    | error cause =>
      simp only [found] at failed
      obtain ⟨u, goes⟩ := @makeDirectories_of_empty _ _ rest asked (followed ++ [part]) true plain
        (get_put_self parent part (.directory []))
      rw [goes] at failed
      cases failed

end MakeDirectories

/-! ### Writing -/

variable {p : Path}

/-- A file in a directory that has been made replaces what was there. -/
theorem Makes.replaces (makes : Makes here t u) (parent : u.get here = .ok (.directory es))
    (free : t.standing (here ++ [name]) ≠ .directory) (octets : List UInt8) :
    t.Replaces (put (.file octets) (here ++ [name]) u) (here ++ [name]) octets := by
  have fresh : ¬ here ++ [name] <+: here := not_prefix_of_concat _ _
  have still_free : u.standing (here ++ [name]) ≠ .directory := makes.others _ fresh ▸ free
  have self := get_put_self parent name (.file octets)
  constructor
  · exact standing_file_iff.mpr self
  · exact free
  · intro q along other
    obtain rfl | above := prefix_concat along
    · exact absurd rfl other
    · refine ⟨?_, (makes.along q above).2⟩
      obtain ⟨rest, same⟩ := along
      have inside : rest ≠ [] := by
        rintro rfl
        exact other (by rw [← same, List.append_nil])
      have reached : (put (.file octets) (here ++ [name]) u).get (q ++ rest) =
          .ok (.file octets) := by
        rw [same, self]
      exact standing_directory_iff.mpr (directory_of_below reached inside)
  · intro q apart
    have above : ¬ q <+: here := fun above => apart (above.trans (List.prefix_append _ _))
    have other : q ≠ here ++ [name] := by
      rintro rfl
      exact apart (List.prefix_refl _)
    rw [standing_put parent (.file octets) other above still_free (.inr ⟨octets, rfl⟩),
      makes.others q above]

/-- A path without steps upwards is written as a whole, or the tree stays as it is. -/
theorem write_plain (plain : Path.upwards ∉ p.parts) (top : t = .directory es)
    (free : t.standing p.parts ≠ .directory) :
    (∃ u, t.write p octets = .ok u ∧ t.Replaces u p.parts octets) ∨
      ∃ e, t.write p octets = .error e ∧ e.left = t := by
  have root : t.get [] = .ok (.directory es) := by rw [top, get_nil]
  have bare : p.parts ≠ [] := by
    intro bare
    rw [bare] at free
    exact free (standing_directory_iff.mpr ⟨es, root⟩)
  have above_plain : Path.upwards ∉ p.parent.parts :=
    fun member => plain (List.dropLast_subset _ member)
  have form : p.parent.parts ++ [p.parts.getLast bare] = p.parts := List.dropLast_concat_getLast bare
  have names : Path.settle [] p.parts = p.parts := by
    rw [settle_plain plain, List.reverse_nil, List.nil_append]
  rw [write]
  cases made : makeDirectories p.parent t [] [] false p.parent.parts with
  | error e => exact .inr ⟨e, rfl, makeDirectories_fails above_plain made ⟨es, root⟩⟩
  | ok u =>
    obtain ⟨makes, fs, parent⟩ :=
      makeDirectories_makes above_plain (.of_directory root) ⟨es, root⟩ made
    rw [List.nil_append] at makes parent
    have replaces := makes.replaces parent (form ▸ free) octets
    have still_free : u.standing p.parts ≠ .directory := by
      have fresh := not_prefix_of_concat p.parent.parts (p.parts.getLast bare)
      rw [form] at fresh
      rw [makes.others _ fresh]
      exact free
    rw [form] at replaces
    refine .inl ⟨_, ?_, replaces⟩
    simp only [bind, Except.bind, names]
    split
    · rename_i gs found
      exact absurd (standing_directory_iff.mpr ⟨gs, found⟩) still_free
    · rfl

end Tree

end BodyDigest
