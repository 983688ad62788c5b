import BodyDigest.Proofs.Files.Writing

/-!
What taking away one file leaves as it was: every other file, and what a scan shows of a directory
but the file itself.
-/
namespace BodyDigest

namespace Tree

variable {t v : Tree} {names rest q a b : List Text} {name other : Text}
variable {entries es : List (Text × Tree)} {octets : List UInt8}

/-! ### Entries -/

theorem lookup_filter_name (entries : List (Text × Tree)) :
    (entries.filter (·.1 ≠ name)).lookup other =
      if other = name then none else entries.lookup other := by
  induction entries with
  | nil => simp
  | cons e entries ih =>
    obtain ⟨n, t⟩ := e
    by_cases same : n = name
    · subst same
      rw [List.filter_cons_of_neg (by simp), ih]
      by_cases here : other = n
      · simp [here]
      · rw [if_neg here, if_neg here, List.lookup_cons, beq_false_of_ne here]
    · rw [List.filter_cons_of_pos (by simp [same]), List.lookup_cons, List.lookup_cons, ih]
      by_cases here : other = n
      · subst here
        simp [same]
      · simp [beq_false_of_ne here]

theorem lookup_map_name (f : Tree → Tree) (entries : List (Text × Tree)) :
    (entries.map fun e => if e.1 = name then (e.1, f e.2) else e).lookup other =
      if other = name then (entries.lookup other).map f else entries.lookup other := by
  induction entries with
  | nil => simp
  | cons e entries ih =>
    obtain ⟨n, t⟩ := e
    by_cases here : other = n
    · subst here
      by_cases same : other = name <;> simp [same]
    · have first : (other == (if n = name then (n, f t) else (n, t)).1) = false := by
        rw [beq_eq_false_iff_ne]
        split <;> exact here
      rw [List.map_cons, List.lookup_cons, List.lookup_cons, first, beq_false_of_ne here]
      exact ih

/-! ### Places -/

theorem remove_last (name : Text) (entries : List (Text × Tree)) :
    remove [name] (.directory entries) = .directory (entries.filter (·.1 ≠ name)) := by
  rw [remove]

theorem remove_below (name : Text) (below : rest ≠ []) (entries : List (Text × Tree)) :
    remove (name :: rest) (.directory entries) =
      .directory (entries.map fun e => if e.1 = name then (e.1, remove rest e.2) else e) := by
  obtain ⟨n, rest, rfl⟩ := List.exists_cons_of_ne_nil below
  rw [remove]

/-- Without a file that is below it a directory is still there. -/
theorem remove_directory (below : rest ≠ []) (entries : List (Text × Tree)) :
    ∃ fs, (Tree.directory entries).remove rest = .directory fs := by
  obtain ⟨n, rest, rfl⟩ := List.exists_cons_of_ne_nil below
  by_cases last : rest = []
  · subst last
    exact ⟨_, remove_last n entries⟩
  · exact ⟨_, remove_below n last entries⟩

/-- A directory above the place loses what is below it. -/
theorem get_remove_above (found : t.get a = .ok v) (below : b ≠ []) :
    (t.remove (a ++ b)).get a = .ok (v.remove b) := by
  induction a generalizing t with
  | nil =>
    rw [get_nil] at found ⊢
    cases found
    rfl
  | cons n a ih =>
    cases t with
    | file octets =>
      rw [get_file_cons] at found
      cases found
    | directory entries =>
      obtain ⟨u, held, found⟩ := get_cons_ok found
      rw [List.cons_append, remove_below n (by simp [below]), get_cons]
      · exact ih found
      · rw [lookup_map_name, if_pos rfl, held]
        rfl

theorem get_remove_apart (below : ¬ names <+: q) (above : ¬ q <+: names) :
    (t.remove names).get q = t.get q := by
  induction names generalizing t q with
  | nil => exact absurd (List.nil_prefix) below
  | cons n names ih =>
    cases q with
    | nil => exact absurd (List.nil_prefix) above
    | cons m q =>
      cases t with
      | file octets => rw [remove]
      | directory entries =>
        by_cases last : names = []
        · subst last
          have other : m ≠ n := by
            rintro rfl
            exact below (List.cons_prefix_cons.mpr ⟨rfl, List.nil_prefix⟩)
          rw [remove_last, get, get, lookup_filter_name, if_neg other]
        · rw [remove_below n last, get, get, lookup_map_name]
          by_cases same : m = n
          · subst same
            rw [if_pos rfl]
            have below : ¬ names <+: q := fun h => below (List.cons_prefix_cons.mpr ⟨rfl, h⟩)
            have above : ¬ q <+: names := fun h => above (List.cons_prefix_cons.mpr ⟨rfl, h⟩)
            cases entries.lookup m with
            | none => rfl
            | some u => exact ih below above
          · rw [if_neg same]

/-- Files are apart from one another. -/
theorem not_below_file (file : t.get q = .ok (.file octets)) (found : t.get names = .ok v)
    (other : names ≠ q) : ¬ q <+: names := by
  rintro ⟨rest, rfl⟩
  have inside : rest ≠ [] := by
    rintro rfl
    exact other (List.append_nil q)
  obtain ⟨es, directory⟩ := directory_of_below found inside
  rw [file] at directory
  cases directory

variable {octets' : List UInt8}

theorem get_file_remove (gone : t.get names = .ok (.file octets)) (other : q ≠ names)
    (found : t.get q = .ok (.file octets')) : (t.remove names).get q = .ok (.file octets') := by
  rw [get_remove_apart (not_below_file gone found other) (not_below_file found gone other.symm), found]

/-- A place that is not below the file reads the same without it. -/
theorem readsSame_remove {p : Path} (gone : t.get names = .ok (.file octets))
    (plain : Path.upwards ∉ p.parts) (below : ¬ names <+: p.parts) :
    ReadsSame t (t.remove names) p := by
  by_cases above : p.parts <+: names
  · obtain ⟨rest, rfl⟩ := above
    have inside : rest ≠ [] := by
      rintro rfl
      exact below ⟨[], by simp⟩
    obtain ⟨es, directory⟩ := directory_of_below gone inside
    have stays := get_remove_above directory inside
    obtain ⟨fs, left⟩ := remove_directory inside es
    rw [left] at stays
    constructor
    · rw [holds, holds, look_plain plain, look_plain plain, stays, directory]
      rfl
    · intro _
      apply charsAt_congr
      rw [octetsAt_eq, octetsAt_eq, look_plain plain, look_plain plain, stays, directory]
      rfl
  · apply readsSame_of_look
    rw [look_plain plain, look_plain plain, get_remove_apart below above]

end Tree

namespace Scan

open BodyDigest.Tree

variable {rules : List IgnoreRule} {parts rest q : List Text} {name n : Text} {t : Tree}
variable {es fs : List (Text × Tree)} {octets : List UInt8}

/-- What is shown at one name has nothing of what is below another. -/
theorem filter_shown_other (proper : t.isProper) (other : n ≠ name) (rest : List Text) :
    (shown rules (parts ++ [n]) t).filter (· ≠ parts ++ name :: rest) =
      shown rules (parts ++ [n]) t := by
  rw [List.filter_eq_self]
  intro q member
  obtain ⟨inside, _, rfl, _⟩ := isFileAt_of_shown t _ proper member
  rw [List.append_assoc]
  simp [other]

/-- A file is taken out of a directory. -/
theorem shownIn_filter_name (proper : areProper es)
    (file : ∀ v, es.lookup name = some v → ∃ octets, v = .file octets) :
    shownIn rules parts (es.filter (·.1 ≠ name)) =
      (shownIn rules parts es).filter (· ≠ parts ++ [name]) := by
  induction es with
  | nil => rfl
  | cons e es ih =>
    obtain ⟨n, t⟩ := e
    obtain ⟨-, fresh, first, later⟩ := areProper_cons proper
    rw [shownIn, List.filter_append]
    by_cases same : n = name
    · subst same
      obtain ⟨octets, rfl⟩ := file t (by simp)
      have gone : (shown rules (parts ++ [n]) (.file octets)).filter (· ≠ parts ++ [n]) = [] := by
        rw [shown]
        split <;> simp
      rw [List.filter_cons_of_neg (by simp), gone, List.nil_append]
      exact ih later fun v found => by rw [fresh] at found; cases found
    · rw [List.filter_cons_of_pos (by simp [same]), shownIn, filter_shown_other first same []]
      congr 1
      apply ih later
      intro v found
      exact file v (by rw [List.lookup_cons, beq_false_of_ne (Ne.symm same), found])

/-- An entry is changed so that one place below it is no longer shown. -/
theorem shownIn_map_name {change : Tree → Tree} (proper : areProper es)
    (inside : ∀ v, es.lookup name = some v → shown rules (parts ++ [name]) (change v) =
      (shown rules (parts ++ [name]) v).filter (· ≠ parts ++ name :: rest)) :
    shownIn rules parts (es.map fun e => if e.1 = name then (e.1, change e.2) else e) =
      (shownIn rules parts es).filter (· ≠ parts ++ name :: rest) := by
  induction es with
  | nil => rfl
  | cons e es ih =>
    obtain ⟨n, t⟩ := e
    obtain ⟨-, fresh, first, later⟩ := areProper_cons proper
    rw [shownIn, List.filter_append, List.map_cons]
    by_cases same : n = name
    · subst same
      rw [if_pos rfl, shownIn, inside t (by simp)]
      congr 1
      exact ih later fun v found => by rw [fresh] at found; cases found
    · rw [if_neg same, shownIn, filter_shown_other first same rest]
      congr 1
      apply ih later
      intro v found
      exact inside v (by rw [List.lookup_cons, beq_false_of_ne (Ne.symm same), found])

/-- Without a file the scan shows what it did but for that file. -/
theorem shownIn_remove (proper : areProper es)
    (file : (Tree.directory es).get rest = .ok (.file octets))
    (left : (Tree.directory es).remove rest = .directory fs) :
    shownIn rules parts fs = (shownIn rules parts es).filter (· ≠ parts ++ rest) := by
  induction rest generalizing es fs parts with
  | nil =>
    rw [get_nil] at file
    cases file
  | cons n rest ih =>
    obtain ⟨u, held, file⟩ := get_cons_ok file
    by_cases last : rest = []
    · subst last
      rw [get_nil] at file
      cases file
      rw [remove_last] at left
      cases left
      apply shownIn_filter_name proper
      intro v found
      rw [held] at found
      cases found
      exact ⟨octets, rfl⟩
    · rw [remove_below n last] at left
      cases left
      apply shownIn_map_name proper
      intro v found
      rw [held] at found
      cases found
      cases u with
      | file _ =>
        obtain ⟨m, rest, rfl⟩ := List.exists_cons_of_ne_nil last
        rw [get_file_cons] at file
        cases file
      | directory ds =>
        obtain ⟨gs, changed⟩ := remove_directory last ds
        have inside := @ih (parts ++ [n]) ds gs (isProper_lookup proper held) file changed
        rw [changed, shown, shown]
        split
        · rfl
        · rw [inside, List.append_assoc, List.singleton_append]

end Scan

/-- Taking away a file concerns its place alone. -/
theorem Tree.remove_kept {t : Tree} {names : List Text} {octets : List UInt8} (proper : t.isProper)
    (gone : t.get names = .ok (.file octets)) :
    Kept (fun _ => True) names t (t.remove names) where
  file := fun _ _ other found => get_file_remove gone other found
  directory := by
    intro q es found
    by_cases above : q <+: names
    · obtain ⟨rest, rfl⟩ := above
      have inside : rest ≠ [] := by
        rintro rfl
        rw [List.append_nil, found] at gone
        cases gone
      have entries_proper := isProper_get proper found
      rw [isProper] at entries_proper
      have file : (Tree.directory es).get rest = .ok (.file octets) := by
        rw [get_append, found] at gone
        exact gone
      obtain ⟨fs, left⟩ := remove_directory inside es
      refine ⟨fs, (get_remove_above found inside).trans (congrArg _ left), fun rules => ?_⟩
      rw [Scan.shownIn_remove entries_proper file left, List.filter_filter]
      apply List.filter_congr
      simp
    · have below : ¬ names <+: q := by
        apply not_below_file gone found
        rintro rfl
        exact above (List.prefix_refl _)
      exact ⟨es, (get_remove_apart below above).trans found, fun _ => rfl⟩
  filled := fun _ untouched => absurd trivial untouched

end BodyDigest
