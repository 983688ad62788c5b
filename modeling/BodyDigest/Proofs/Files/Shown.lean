import BodyDigest.Files.Scan
import BodyDigest.Proofs.Files.Places
import BodyDigest.Proofs.Order

/-!
The files that a scan shows are those files of the tree that are not hidden and to which only entered
directories lead. What is put at one place of a directory shows nothing else than before at all the
others.
-/
namespace BodyDigest

namespace Tree

mutual

/-- Whether the names in every directory differ from one another, and none of them steps upwards. -/
def isProper : Tree → Bool
  | .file _ => true
  | .directory entries => areProper entries

def areProper : List (Text × Tree) → Bool
  | [] => true
  | (name, t) :: rest =>
    name ≠ Path.upwards && (rest.lookup name).isNone && isProper t && areProper rest

end

variable {entries : List (Text × Tree)} {name : Text} {t : Tree}

theorem areProper_cons (proper : areProper ((name, t) :: entries)) :
    name ≠ Path.upwards ∧ entries.lookup name = none ∧ t.isProper ∧ areProper entries := by
  simp only [areProper, ne_eq, Bool.and_eq_true, decide_not, Bool.not_eq_true',
    decide_eq_false_iff_not, Option.isNone_iff_eq_none] at proper
  exact ⟨proper.1.1.1, proper.1.1.2, proper.1.2, proper.2⟩

theorem isProper_lookup {v : Tree} (proper : areProper entries)
    (found : entries.lookup name = some v) : v.isProper := by
  induction entries with
  | nil => cases found
  | cons e entries ih =>
    obtain ⟨n, u⟩ := e
    simp only [areProper, Bool.and_eq_true] at proper
    rw [List.lookup_cons] at found
    split at found
    · cases found
      exact proper.1.2
    · exact ih proper.2 found

theorem isProper_get {t v : Tree} {names : List Text} (proper : t.isProper)
    (found : t.get names = .ok v) : v.isProper := by
  induction names generalizing t with
  | nil =>
    rw [get_nil] at found
    cases found
    exact proper
  | cons n names ih =>
    cases t with
    | file octets =>
      rw [get_file_cons] at found
      cases found
    | directory entries =>
      obtain ⟨w, here, later⟩ := get_cons_ok found
      rw [isProper] at proper
      exact ih (isProper_lookup proper here) later

end Tree

namespace Scan

open BodyDigest.Tree

variable {rules : List IgnoreRule} {parts q here rest : List Text} {name : Text} {new : Tree} {n : Nat}
variable {entries es : List (Text × Tree)} {keep : List Text → Bool}

/-! ### The files of a tree -/

/-- The places of all files at `parts` and below. -/
def places (parts : List Text) (t : Tree) : List (List Text) := (Tree.files parts t).map (·.1)

/-- The places of all files below a directory. -/
def placesIn (parts : List Text) (entries : List (Text × Tree)) : List (List Text) :=
  (filesIn parts entries).map (·.1)

theorem places_file {octets : List UInt8} : places parts (.file octets) = [parts] := by
  rw [places, Tree.files]
  rfl

theorem places_directory : places parts (.directory entries) = placesIn parts entries := by
  rw [places, Tree.files, placesIn]

theorem placesIn_nil : placesIn parts [] = [] := by
  rw [placesIn, filesIn]
  rfl

theorem placesIn_cons {t : Tree} : placesIn parts ((name, t) :: entries) =
    places (parts ++ [name]) t ++ placesIn parts entries := by
  rw [placesIn, filesIn, List.map_append, places, placesIn]

/-- The place of a file, from the directory at `parts` where the scan began. -/
def IsFileAt (t : Tree) (parts q : List Text) : Prop :=
  ∃ rest octets, q = parts ++ rest ∧ Path.upwards ∉ rest ∧ t.get rest = .ok (.file octets)

theorem isFileAt_head {t : Tree} (named : name ≠ Path.upwards)
    (h : IsFileAt t (parts ++ [name]) q) : IsFileAt (.directory ((name, t) :: entries)) parts q := by
  obtain ⟨rest, octets, rfl, plain, reached⟩ := h
  refine ⟨name :: rest, octets, by simp, ?_, ?_⟩
  · intro member
    rcases List.mem_cons.mp member with same | member
    · exact named same.symm
    · exact plain member
  · rw [get_cons (v := t) (by simp), reached]

theorem isFileAt_tail {t : Tree} (fresh : entries.lookup name = none)
    (h : IsFileAt (.directory entries) parts q) :
    IsFileAt (.directory ((name, t) :: entries)) parts q := by
  obtain ⟨rest, octets, rfl, plain, reached⟩ := h
  cases rest with
  | nil =>
    rw [get_nil] at reached
    cases reached
  | cons n rest =>
    obtain ⟨w, found, later⟩ := get_cons_ok reached
    have other : n ≠ name := by
      rintro rfl
      rw [found] at fresh
      cases fresh
    refine ⟨n :: rest, octets, rfl, plain, ?_⟩
    rw [get_cons (v := w) (by simp [List.lookup_cons, beq_false_of_ne other, found]), later]

mutual

theorem isFileAt_of_mem_places : (t : Tree) → (parts : List Text) → t.isProper →
    q ∈ places parts t → IsFileAt t parts q
  | .file octets, parts, _, h => by
    rw [places_file] at h
    rw [List.mem_singleton.mp h]
    exact ⟨[], octets, by simp, by simp, get_nil _⟩
  | .directory entries, parts, proper, h => by
    rw [isProper] at proper
    rw [places_directory] at h
    exact isFileAt_of_mem_placesIn entries parts proper h

theorem isFileAt_of_mem_placesIn : (entries : List (Text × Tree)) → (parts : List Text) →
    areProper entries → q ∈ placesIn parts entries → IsFileAt (.directory entries) parts q
  | [], parts, _, h => by
    rw [placesIn_nil] at h
    cases h
  | (name, t) :: entries, parts, proper, h => by
    obtain ⟨named, fresh, first, later⟩ := areProper_cons proper
    rw [placesIn_cons] at h
    rcases List.mem_append.mp h with here | there
    · exact isFileAt_head named (isFileAt_of_mem_places t _ first here)
    · exact isFileAt_tail fresh (isFileAt_of_mem_placesIn entries parts later there)

end

theorem mem_places_of_get {t : Tree} {octets : List UInt8}
    (file : t.get rest = .ok (.file octets)) : parts ++ rest ∈ places parts t := by
  induction rest generalizing t parts with
  | nil =>
    rw [get_nil] at file
    cases file
    rw [places_file, List.append_nil, List.mem_singleton]
  | cons name rest ih =>
    cases t with
    | file _ =>
      rw [get_file_cons] at file
      cases file
    | directory entries =>
      obtain ⟨w, found, later⟩ := get_cons_ok file
      have inside : parts ++ [name] ++ rest ∈ places (parts ++ [name]) w := ih later
      rw [List.append_assoc, List.singleton_append] at inside
      rw [places_directory]
      clear file later ih
      induction entries with
      | nil => cases found
      | cons e entries ih =>
        obtain ⟨n, v⟩ := e
        rw [placesIn_cons, List.mem_append]
        rw [List.lookup_cons] at found
        split at found
        · rename_i same
          cases found
          rw [beq_iff_eq] at same
          subst same
          exact .inl inside
        · exact .inr (ih found)

theorem mem_placesIn_iff (proper : areProper entries) : parts ++ rest ∈ placesIn parts entries ↔
    ∃ octets, (Tree.directory entries).get rest = .ok (.file octets) := by
  constructor
  · intro member
    obtain ⟨inside, octets, same, -, file⟩ := isFileAt_of_mem_placesIn entries parts proper member
    rw [List.append_cancel_left same]
    exact ⟨octets, file⟩
  · rintro ⟨octets, file⟩
    rw [← places_directory]
    exact mem_places_of_get file

mutual

theorem places_nodup : (t : Tree) → (parts : List Text) → t.isProper → (places parts t).Nodup
  | .file octets, parts, _ => by
    rw [places_file]
    exact List.pairwise_singleton _ _
  | .directory entries, parts, proper => by
    rw [isProper] at proper
    rw [places_directory]
    exact placesIn_nodup entries parts proper

theorem placesIn_nodup : (entries : List (Text × Tree)) → (parts : List Text) →
    areProper entries → (placesIn parts entries).Nodup
  | [], parts, _ => by
    rw [placesIn_nil]
    exact List.nodup_nil
  | (name, t) :: entries, parts, proper => by
    obtain ⟨-, fresh, first, later⟩ := areProper_cons proper
    rw [placesIn_cons, List.nodup_append]
    refine ⟨places_nodup t _ first, placesIn_nodup entries parts later, ?_⟩
    rintro q here _ there rfl
    -- Below the directory the one place starts with `name`, the other with another name.
    obtain ⟨front, -, same, -, -⟩ := isFileAt_of_mem_places t _ first here
    obtain ⟨back, octets, whole, -, file⟩ := isFileAt_of_mem_placesIn entries parts later there
    rw [whole, List.append_assoc, List.singleton_append, List.append_cancel_left_eq] at same
    subst same
    obtain ⟨w, found, -⟩ := get_cons_ok file
    rw [fresh] at found
    cases found

end

/-! ### What is shown -/

/-- A directory that the scan goes into. -/
def isEntered (rules : List IgnoreRule) (parts : List Text) : Bool :=
  !(isSkipped parts || IgnoreRule.hides rules (Path.spelled parts) true)

/-- The file is not hidden, and those directories on the way to it that have `n` parts or more are
entered. -/
def Visible (rules : List IgnoreRule) (n : Nat) (q : List Text) : Prop :=
  (∀ i < q.length, n ≤ i → isEntered rules (q.take i)) ∧
    IgnoreRule.hides rules (Path.spelled q) false = false

instance (rules : List IgnoreRule) (n : Nat) : DecidablePred (Visible rules n) :=
  fun _ => inferInstanceAs (Decidable (_ ∧ _))

theorem visible_step (entered : isEntered rules (q.take n)) :
    Visible rules n q ↔ Visible rules (n + 1) q := by
  constructor
  · rintro ⟨ancestors, shown⟩
    exact ⟨fun i inside deep => ancestors i inside (by omega), shown⟩
  · rintro ⟨ancestors, shown⟩
    refine ⟨fun i inside deep => ?_, shown⟩
    rcases Nat.eq_or_lt_of_le deep with rfl | deeper
    · exact entered
    · exact ancestors i inside deeper

mutual

theorem below_of_mem_places : (t : Tree) → (parts : List Text) → ∀ q ∈ places parts t, parts <+: q
  | .file octets, parts, q, member => by
    rw [places_file, List.mem_singleton] at member
    subst member
    exact List.prefix_refl _
  | .directory entries, parts, q, member => by
    rw [places_directory] at member
    exact (below_of_mem_placesIn entries parts q member).1

theorem below_of_mem_placesIn : (entries : List (Text × Tree)) → (parts : List Text) →
    ∀ q ∈ placesIn parts entries, parts <+: q ∧ parts.length < q.length
  | [], parts, q, member => by
    rw [placesIn_nil] at member
    cases member
  | (name, t) :: entries, parts, q, member => by
    rw [placesIn_cons, List.mem_append] at member
    rcases member with here | later
    · obtain ⟨rest, rfl⟩ := below_of_mem_places t _ q here
      exact ⟨⟨name :: rest, by simp⟩, by simp⟩
    · exact below_of_mem_placesIn entries parts q later

end

mutual

/-- Pruning the walk leaves exactly the files to which entered directories lead. -/
theorem shown_eq_filter : (t : Tree) → (parts : List Text) →
    shown rules parts t = (places parts t).filter (Visible rules parts.length ·)
  | .file octets, parts => by
    have alone : Visible rules parts.length parts ↔
        IgnoreRule.hides rules (Path.spelled parts) false = false := by
      constructor
      · exact fun visible => visible.2
      · exact fun shown => ⟨fun i inside deep => absurd inside (by omega), shown⟩
    rw [shown, places_file]
    split
    · rename_i hidden
      simp [alone, hidden]
    · rename_i hidden
      simp [alone, hidden]
  | .directory entries, parts => by
    have at_parts : ∀ q ∈ placesIn parts entries, q.take parts.length = parts := fun q member =>
      (List.prefix_iff_eq_take.mp (below_of_mem_placesIn entries parts q member).1).symm
    rw [shown, places_directory]
    by_cases entered : isEntered rules parts
    · have opened := entered
      rw [isEntered, Bool.not_eq_true'] at opened
      rw [opened, if_neg (by simp), shownIn_eq_filter entries parts]
      refine List.filter_congr fun q member => ?_
      rw [← at_parts q member] at entered
      simp only [visible_step entered]
    · have closed := entered
      rw [isEntered, Bool.not_eq_true', Bool.not_eq_false] at closed
      rw [closed, if_pos rfl, eq_comm, List.filter_eq_nil_iff]
      intro q member visible
      have inside := (below_of_mem_placesIn entries parts q member).2
      have passed := (of_decide_eq_true visible).1 _ inside (Nat.le_refl _)
      rw [at_parts q member] at passed
      exact entered passed

theorem shownIn_eq_filter : (entries : List (Text × Tree)) → (parts : List Text) →
    shownIn rules parts entries = (placesIn parts entries).filter (Visible rules (parts.length + 1) ·)
  | [], parts => by
    rw [shownIn, placesIn_nil]
    rfl
  | (name, t) :: entries, parts => by
    have first := shown_eq_filter t (parts ++ [name])
    rw [List.length_append, List.length_singleton] at first
    rw [shownIn, placesIn_cons, List.filter_append, first, shownIn_eq_filter entries parts]

end

theorem isFileAt_of_shown (t : Tree) (parts : List Text) (proper : t.isProper)
    (h : q ∈ shown rules parts t) : IsFileAt t parts q := by
  rw [shown_eq_filter] at h
  exact isFileAt_of_mem_places t parts proper (List.mem_filter.mp h).1

theorem isFileAt_of_shownIn (entries : List (Text × Tree)) (parts : List Text)
    (proper : areProper entries) (h : q ∈ shownIn rules parts entries) :
    IsFileAt (.directory entries) parts q := by
  rw [shownIn_eq_filter] at h
  exact isFileAt_of_mem_placesIn entries parts proper (List.mem_filter.mp h).1

/-! ### After a change -/

theorem filter_shownIn_setEntry {old : List (List Text)}
    (same : (shown rules (parts ++ [name]) new).filter keep = old)
    (fresh : es.lookup name = none → old = [])
    (found : ∀ v, es.lookup name = some v → (shown rules (parts ++ [name]) v).filter keep = old) :
    (shownIn rules parts (setEntry name new es)).filter keep =
      (shownIn rules parts es).filter keep := by
  induction es with
  | nil =>
    rw [setEntry, shownIn, shownIn, shownIn, List.append_nil, same, fresh rfl]
    rfl
  | cons e es ih =>
    obtain ⟨n, v⟩ := e
    rw [setEntry]
    split
    · rename_i at_n
      subst at_n
      rw [shownIn, shownIn, List.filter_append, List.filter_append, same, found v (by simp)]
    · rename_i other
      have later : List.lookup name ((n, v) :: es) = es.lookup name := by
        rw [List.lookup_cons, beq_false_of_ne (Ne.symm other)]
      rw [later] at fresh found
      rw [shownIn, shownIn, List.filter_append, List.filter_append, ih fresh found]

/-- Neither what is put at a place nor what it takes the place of is kept. -/
theorem filter_shownIn_put (parent : (Tree.directory es).get here = .ok (.directory entries))
    (hidden : (shown rules (parts ++ here ++ [name]) new).filter keep = [])
    (replaced : ∀ v, entries.lookup name = some v →
      (shown rules (parts ++ here ++ [name]) v).filter keep = []) :
    ∃ fs, put new (here ++ [name]) (.directory es) = .directory fs ∧
      (shownIn rules parts fs).filter keep = (shownIn rules parts es).filter keep := by
  induction here generalizing es parts with
  | nil =>
    rw [get_nil] at parent
    cases parent
    rw [List.append_nil] at hidden replaced
    rw [List.nil_append, put_directory, put_nil]
    exact ⟨_, rfl, filter_shownIn_setEntry hidden (fun _ => rfl) replaced⟩
  | cons n here ih =>
    obtain ⟨w, found, later⟩ := get_cons_ok parent
    have place : parts ++ n :: here ++ [name] = parts ++ [n] ++ here ++ [name] := by simp
    rw [place] at hidden replaced
    cases w with
    | file octets =>
      cases here with
      | nil =>
        rw [get_nil] at later
        cases later
      | cons m here =>
        rw [get_file_cons] at later
        cases later
    | directory ws =>
      obtain ⟨fs, changed, same⟩ := ih later hidden replaced
      rw [List.cons_append, put_directory, found, Option.getD_some, changed]
      refine ⟨_, rfl, filter_shownIn_setEntry rfl ?_ ?_⟩
      · intro absent
        rw [found] at absent
        cases absent
      · intro v at_n
        rw [found] at at_n
        cases at_n
        rw [shown, shown]
        split
        · rfl
        · exact same.symm

/-- Which files are kept does not depend on when they are. -/
theorem filter_mergeSort (xs : List (List Text)) :
    (xs.mergeSort Path.partsLe).filter keep = (xs.filter keep).mergeSort Path.partsLe := by
  apply List.Perm.eq_of_pairwise ?_ ?_ (mergeSort_sorted (xs.filter keep))
  · exact ((List.mergeSort_perm xs _).filter keep).trans (List.mergeSort_perm _ _).symm
  · intro a b _ _ hab hba
    exact Std.LawfulEqCmp.eq_of_compare
      (Std.OrientedCmp.isLE_antisymm (ne_gt_iff_isLE.mp hab) (ne_gt_iff_isLE.mp hba))
  · exact (mergeSort_sorted xs).filter keep

end Scan

end BodyDigest
