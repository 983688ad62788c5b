import BodyDigest.Files.Tree

/-!
Places in a tree: what names lead to, before and after something is put at another place, and
paths whose steps upwards have been taken.
-/
namespace BodyDigest.Tree

variable {t u new : Tree} {here rest names q : List Text} {name : Text}
variable {entries : List (Text × Tree)}

/-! ### One directory -/

theorem lookup_setEntry (name other : Text) (new : Tree) (entries : List (Text × Tree)) :
    (setEntry name new entries).lookup other =
      if other = name then some new else entries.lookup other := by
  induction entries with
  | nil =>
    by_cases same : other = name
    · simp [setEntry, same]
    · simp [setEntry, same, List.lookup_cons, beq_false_of_ne same]
  | cons e entries ih =>
    obtain ⟨n, v⟩ := e
    rw [setEntry]
    split
    · rename_i found
      subst found
      by_cases same : other = n
      · simp [same]
      · simp [same, List.lookup_cons, beq_false_of_ne same]
    · rename_i different
      by_cases at_n : other = n
      · subst at_n
        simp [different]
      · simp [List.lookup_cons, beq_false_of_ne at_n, ih]

theorem get_file_cons {octets : List UInt8} : (Tree.file octets).get (name :: rest) =
    .error .notDirectory := by
  rw [get]

theorem get_nil (t : Tree) : t.get [] = .ok t := by
  cases t <;> rw [get]

theorem get_append (t : Tree) (a b : List Text) :
    t.get (a ++ b) = (t.get a).bind fun u => u.get b := by
  induction a generalizing t with
  | nil => rw [List.nil_append, get_nil]; rfl
  | cons n a ih =>
    cases t with
    | file octets => rw [List.cons_append, get_file_cons, get_file_cons]; rfl
    | directory entries =>
      rw [List.cons_append, get, get]
      cases entries.lookup n with
      | none => rfl
      | some v => exact ih v

theorem get_cons {v : Tree} (found : entries.lookup name = some v) (rest : List Text) :
    (Tree.directory entries).get (name :: rest) = v.get rest := by
  rw [get, found]

theorem get_cons_ok {v : Tree} (h : (Tree.directory entries).get (name :: rest) = .ok v) :
    ∃ w, entries.lookup name = some w ∧ w.get rest = .ok v := by
  rw [get] at h
  cases found : entries.lookup name with
  | none => simp [found] at h
  | some w => exact ⟨w, rfl, by simpa [found] using h⟩

theorem get_of_append {v : Tree} {a b : List Text} (h : t.get (a ++ b) = .ok v) :
    ∃ u, t.get a = .ok u ∧ u.get b = .ok v := by
  rw [get_append] at h
  cases first : t.get a with
  | error e => simp [first, Except.bind] at h
  | ok u => exact ⟨u, rfl, by simpa [first, Except.bind] using h⟩

/-- What something stands below is a directory. -/
theorem directory_of_below {v : Tree} {a b : List Text} (h : t.get (a ++ b) = .ok v)
    (below : b ≠ []) : ∃ entries, t.get a = .ok (.directory entries) := by
  obtain ⟨u, first, second⟩ := get_of_append h
  cases b with
  | nil => exact absurd rfl below
  | cons n b =>
    cases u with
    | file octets =>
      rw [get_file_cons] at second
      cases second
    | directory entries => exact ⟨entries, first⟩

/-! ### After a change -/

theorem put_nil (new t : Tree) : put new [] t = new := by
  cases t <;> rw [put]

theorem put_directory (new : Tree) (name : Text) (rest : List Text)
    (entries : List (Text × Tree)) : put new (name :: rest) (.directory entries) =
      .directory (setEntry name (put new rest ((entries.lookup name).getD (.directory []))) entries) := by
  rw [put]

/-- What is above a place changes only towards it. -/
theorem get_put_above {a b : List Text} (parent : t.get (a ++ b) = .ok (.directory entries))
    (name : Text) (new : Tree) : ∃ u, t.get a = .ok u ∧
      (put new (a ++ b ++ [name]) t).get a = .ok (put new (b ++ [name]) u) := by
  induction a generalizing t with
  | nil => exact ⟨t, get_nil t, get_nil _⟩
  | cons n a ih =>
    cases t with
    | file octets =>
      rw [List.cons_append, get_file_cons] at parent
      cases parent
    | directory es =>
      obtain ⟨w, found, later⟩ := get_cons_ok parent
      obtain ⟨u, reached, changed⟩ := ih later
      refine ⟨u, (get_cons found a).trans reached, ?_⟩
      rw [List.cons_append, List.cons_append, put_directory, found, Option.getD_some,
        get_cons (v := put new (a ++ b ++ [name]) w) (by rw [lookup_setEntry, if_pos rfl])]
      exact changed

theorem get_put_self (parent : t.get here = .ok (.directory entries)) (name : Text) (new : Tree) :
    (put new (here ++ [name]) t).get (here ++ [name]) = .ok new := by
  obtain ⟨u, reached, changed⟩ := @get_put_above t entries here []
    (by rw [List.append_nil]; exact parent) name new
  rw [List.append_nil, List.nil_append] at changed
  rw [parent] at reached
  cases reached
  rw [get_append, changed, put_directory, put_nil]
  change Tree.get _ [name] = _
  rw [get_cons (v := new) (by rw [lookup_setEntry, if_pos rfl]), get_nil]

/-- What is neither above a place nor below it stays. -/
theorem get_put_apart (parent : t.get here = .ok (.directory entries)) {name : Text} (new : Tree)
    (below : ¬ here ++ [name] <+: q) (above : ¬ q <+: here) :
    (put new (here ++ [name]) t).get q = t.get q := by
  induction here generalizing t q with
  | nil =>
    cases q with
    | nil => exact absurd (List.prefix_refl []) above
    | cons m q =>
      rw [get_nil] at parent
      cases parent
      have other : m ≠ name := by
        rintro rfl
        exact below (by simp)
      rw [List.nil_append, put_directory, put_nil, get, get, lookup_setEntry, if_neg other]
  | cons n here ih =>
    cases t with
    | file octets =>
      rw [get_file_cons] at parent
      cases parent
    | directory es =>
      obtain ⟨w, found, later⟩ := get_cons_ok parent
      cases q with
      | nil => exact absurd List.nil_prefix above
      | cons m q =>
        rw [List.cons_append, put_directory, found, Option.getD_some]
        by_cases same : m = n
        · subst same
          rw [get_cons (v := put new (here ++ [name]) w) (by rw [lookup_setEntry, if_pos rfl]),
            get_cons found]
          apply ih later
          · intro inside
            rw [List.cons_append] at below
            exact below (List.cons_prefix_cons.mpr ⟨rfl, inside⟩)
          · intro inside
            exact above (List.cons_prefix_cons.mpr ⟨rfl, inside⟩)
        · rw [get, get, lookup_setEntry, if_neg same]

/-! ### Steps upwards -/

theorem settle_append (here a b : List Text) :
    Path.settle here (a ++ b) = Path.settle (Path.settle here a).reverse b := by
  induction a generalizing here with
  | nil => rw [List.nil_append, Path.settle, List.reverse_reverse]
  | cons part a ih =>
    rw [List.cons_append, Path.settle, Path.settle]
    split
    · exact ih _
    · exact ih _

theorem settle_plain {parts : List Text} (plain : Path.upwards ∉ parts) (here : List Text) :
    Path.settle here parts = here.reverse ++ parts := by
  induction parts generalizing here with
  | nil => rw [Path.settle, List.append_nil]
  | cons part parts ih =>
    have other : part ≠ Path.upwards := by
      rintro rfl
      exact plain List.mem_cons_self
    rw [Path.settle, if_neg other, ih fun member => plain (List.mem_cons_of_mem _ member)]
    simp

theorem upwards_not_mem_settle {here : List Text} (plain : Path.upwards ∉ here)
    (parts : List Text) : Path.upwards ∉ Path.settle here parts := by
  induction parts generalizing here with
  | nil => simpa [Path.settle] using plain
  | cons part parts ih =>
    rw [Path.settle]
    split
    · exact ih fun member => plain (List.mem_of_mem_tail member)
    · rename_i other
      apply ih
      intro member
      rcases List.mem_cons.mp member with same | member
      · exact other same.symm
      · exact plain member

theorem canonical_plain {parts : List Text} (plain : Path.upwards ∉ parts) (t : Tree)
    (here : List Text) : t.canonical here parts = .ok (here ++ parts) := by
  induction parts generalizing here with
  | nil => rw [canonical, List.append_nil]
  | cons part parts ih =>
    have other : part ≠ Path.upwards := by
      rintro rfl
      exact plain List.mem_cons_self
    rw [canonical, if_neg other, ih fun member => plain (List.mem_cons_of_mem _ member)]
    simp

theorem look_plain {p : Path} (plain : Path.upwards ∉ p.parts) (t : Tree) :
    t.look p = t.get p.parts := by
  rw [look, canonical_plain plain]
  rfl

end BodyDigest.Tree

namespace BodyDigest

/-! ### Settled paths -/

theorem Path.settled_ok {start p q : Path} (h : settled start p = .ok q) :
    q = ⟨.top, settle [] (start.join p).parts⟩ := by
  unfold settled at h
  simp only at h
  split at h
  · cases h
  · split at h
    · cases h
    · cases h
      rfl

theorem Path.settled_plain {start p q : Path} (h : settled start p = .ok q) :
    upwards ∉ q.parts := by
  rw [settled_ok h]
  exact Tree.upwards_not_mem_settle (by simp) _

theorem Path.join_absolute {p q : Path} (h : q.isAbsolute) : p.join q = q := by
  rw [join, if_pos h]

theorem Path.join_isAbsolute {p : Path} (h : p.isAbsolute) (q : Path) : (p.join q).isAbsolute := by
  rw [join]
  split
  · assumption
  · exact h

/-- The anchor and the parts of a settled path. -/
structure Path.IsSettled (p : Path) : Prop where
  anchor : p.anchor = .top
  plain : upwards ∉ p.parts

theorem Path.isSettled_of_settled {start p q : Path} (h : settled start p = .ok q) :
    IsSettled q := by
  constructor
  · rw [settled_ok h]
  · exact settled_plain h

theorem Path.IsSettled.isAbsolute {p : Path} (h : p.IsSettled) : p.isAbsolute := by
  simp [Path.isAbsolute, h.anchor]

theorem Path.IsSettled.child {p : Path} (h : p.IsSettled) {name : Text} (named : name ≠ upwards) :
    (p.child name).IsSettled := by
  constructor
  · exact h.anchor
  · intro member
    rcases List.mem_append.mp member with inside | last
    · exact h.plain inside
    · exact named (List.mem_singleton.mp last).symm

theorem Path.IsSettled.eq_of_settled {start p q : Path} (h : p.IsSettled)
    (settled : Path.settled start p = .ok q) : q = p := by
  rw [settled_ok settled, join_absolute h.isAbsolute, Tree.settle_plain h.plain]
  obtain ⟨anchor, parts⟩ := p
  obtain rfl : anchor = .top := h.anchor
  rfl

end BodyDigest
