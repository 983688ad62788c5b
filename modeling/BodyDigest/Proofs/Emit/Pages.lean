import BodyDigest.Proofs.Emit.Acceptance

/-! What is emitted: always from views that exist, and without templates the built-in pages. -/
namespace BodyDigest.Emit

theorem subjects_ok_iff {root : Text} {r : Registry} {s : Subjects} :
    subjects root r = .ok s ↔
      checkRoot root = .ok () ∧ ∃ cs, views r = .ok cs ∧ s = ⟨root, r.size, cs⟩ := by
  unfold subjects
  cases checkRoot root with
  | error e => simp [Except.mapError, bind, Except.bind]
  | ok u =>
    cases views r with
    | error e => simp [Except.mapError, bind, Except.bind]
    | ok cs => simp [Except.mapError, bind, Except.bind, pure, Except.pure, eq_comm]

theorem emit_ok_iff {templates : Templates} {root : Text} {r : Registry} {a : Artifacts} :
    emit templates root r = .ok a ↔
      ∃ s, subjects root r = .ok s ∧ finished templates s staticPage = .ok a.static ∧
        finished templates s runtimePage = .ok a.runtime ∧
          finished templates s modulePage = .ok a.module := by
  unfold emit
  cases subjects root r with
  | error e => simp [bind, Except.bind]
  | ok s =>
    cases static : finished templates s staticPage with
    | error e => simp [bind, Except.bind, static]
    | ok static_text =>
      cases runtime : finished templates s runtimePage with
      | error e => simp [bind, Except.bind, static, runtime]
      | ok runtime_text =>
        cases whole : finished templates s modulePage with
        | error e => simp [bind, Except.bind, static, runtime, whole]
        | ok module_text =>
          simp only [bind, Except.bind, pure, Except.pure, static, runtime, whole, Except.ok.injEq,
            exists_eq_left']
          constructor
          · rintro rfl
            exact ⟨rfl, rfl, rfl⟩
          · rintro ⟨rfl, rfl, rfl⟩
            rfl

/-- Whatever the templates are, an emitted registry has views. -/
theorem views_of_emit {templates : Templates} {root : Text} {r : Registry} {a : Artifacts}
    (h : emit templates root r = .ok a) : ∃ cs, views r = .ok cs := by
  obtain ⟨s, ready, _⟩ := emit_ok_iff.mp h
  obtain ⟨_, cs, shown, _⟩ := subjects_ok_iff.mp ready
  exact ⟨cs, shown⟩

/-- A page closed by one line feed. -/
def closed (t : Text) : Text := t.trimRight ++ [.char '\n']

/-- The built-in pages. -/
def pages (root : Text) (count : Nat) (cs : List ContainerView) : Artifacts where
  static := closed (staticText root cs)
  runtime := closed (runtimeText cs)
  module := closed (moduleText root count (runtimeText cs) (staticText root cs))

theorem emit_built_in_iff {root : Text} {r : Registry} {a : Artifacts} :
    emit [] root r = .ok a ↔
      checkRoot root = .ok () ∧ ∃ cs, views r = .ok cs ∧ a = pages root r.size cs := by
  have page_texts (s : Subjects) :
      finished [] s staticPage = .ok (pages s.root s.count s.containers).static ∧
        finished [] s runtimePage = .ok (pages s.root s.count s.containers).runtime ∧
          finished [] s modulePage = .ok (pages s.root s.count s.containers).module :=
    ⟨rfl, rfl, rfl⟩
  rw [emit_ok_iff]
  simp only [subjects_ok_iff]
  constructor
  · rintro ⟨s, ⟨root_ok, cs, shown, rfl⟩, static, runtime, whole⟩
    refine ⟨root_ok, cs, shown, ?_⟩
    have same_static := Except.ok.inj ((page_texts _).1.symm.trans static)
    have same_runtime := Except.ok.inj ((page_texts _).2.1.symm.trans runtime)
    have same_module := Except.ok.inj ((page_texts _).2.2.symm.trans whole)
    cases a
    simp_all [pages]
  · rintro ⟨root_ok, cs, shown, rfl⟩
    exact ⟨⟨root, r.size, cs⟩, ⟨root_ok, cs, shown, rfl⟩, page_texts _⟩

theorem emit_of_nameable {root : Text} {r : Registry} (root_ok : checkRoot root = .ok ())
    (nameable : Nameable (Diff.keys r)) : ∃ a, emit [] root r = .ok a := by
  obtain ⟨cs, shown⟩ := (views_ok_iff r).mpr nameable
  exact ⟨_, emit_built_in_iff.mpr ⟨root_ok, cs, shown, rfl⟩⟩

end BodyDigest.Emit
