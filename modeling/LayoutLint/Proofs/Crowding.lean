import LayoutLint.Proofs.Reports.Constructor

/-! When a constructor is reported. The check reads the parameters from the first to the last, keeps
the line of the one before and whether a property has been seen, and stops at the first two that
meet on a line. All of that comes down to one condition on the list as a whole: a parameter begins
on the line of its predecessor, and it or one before it declares a property. -/
namespace LayoutLint

/-- The first list in a parameter, that of its modifiers, has a visibility keyword. -/
def Node.DeclaresProperty (parameter : Node) : Prop :=
  ∃ modifiers, parameter.firstChild? .syntaxList = some modifiers ∧
    ∃ keyword ∈ modifiers.children,
      keyword.kind ∈ [Kind.publicKeyword, .protectedKeyword, .privateKeyword]

theorem Kind.isVisibility_iff {k : Kind} :
    k.isVisibility ↔ k ∈ [Kind.publicKeyword, .protectedKeyword, .privateKeyword] := by
  cases k <;> decide

theorem Node.isProperty_iff {parameter : Node} :
    parameter.isProperty ↔ parameter.DeclaresProperty := by
  unfold isProperty DeclaresProperty
  cases parameter.firstChild? .syntaxList with
  | none => simp
  | some modifiers =>
    simp only [List.any_eq_true, Kind.isVisibility_iff, Option.some.injEq, exists_eq_left']

namespace Constructor

/-- Some parameter of the list begins on the line of its predecessor, which for the first one is
the constructor, and that parameter or one before it declares a property. -/
def Crowded (t : Text) (n signature : Node) : Prop :=
  ∃ before p after, signature.childrenOf .parameter = before ++ p :: after ∧
    p.line t = (before.getLastD n).line t ∧ ∃ q ∈ before ++ [p], q.DeclaresProperty

/-- The flag of the check is up at a parameter if it was up before the list or a property has come
since. -/
theorem crowds_map_iff (line : Node → Nat) (n : Node) (seen : Bool) (ps : List Node) :
    crowds (line n) seen (ps.map fun p => (line p, p.isProperty)) ↔
      ∃ before p after, ps = before ++ p :: after ∧ line p = line (before.getLastD n) ∧
        (seen ∨ ∃ q ∈ before ++ [p], q.isProperty) := by
  induction ps generalizing n seen with
  | nil => simp [crowds]
  | cons first rest ih =>
    -- The predecessor of the rest is the first parameter, and the flag has seen it.
    rw [List.map_cons, crowds, Bool.or_eq_true, ih, Bool.and_eq_true, decide_eq_true_eq]
    constructor
    · rintro (⟨hseen, hline⟩ | ⟨before, p, after, rfl, hline, hseen⟩)
      · exact ⟨[], first, rest, rfl, hline, by simpa using hseen⟩
      · refine ⟨first :: before, p, after, rfl, ?_, ?_⟩
        · rw [List.getLastD_cons]
          exact hline
        · simpa [or_assoc] using hseen
    · rintro ⟨before, p, after, hsplit, hline, hseen⟩
      cases before with
      | nil =>
        obtain ⟨rfl, rfl⟩ := List.cons.inj hsplit
        exact Or.inl ⟨by simpa using hseen, hline⟩
      | cons _ before =>
        obtain ⟨rfl, rfl⟩ := List.cons.inj hsplit
        rw [List.getLastD_cons] at hline
        exact Or.inr ⟨before, p, after, rfl, hline, by simpa [or_assoc] using hseen⟩

theorem crowds_iff_crowded {t : Text} {n signature : Node} :
    crowds (n.line t) false (parameterLines t signature) ↔ Crowded t n signature := by
  rw [parameterLines, crowds_map_iff (fun p => p.line t)]
  simp only [Bool.false_eq_true, false_or, Node.isProperty_iff]
  rfl

instance (t : Text) (n signature : Node) : Decidable (Crowded t n signature) :=
  decidable_of_iff _ crowds_iff_crowded

/-- A constructor with a crowded list is reported once, on that list, and the report shows the text
that its fix puts in. Any other constructor is accepted. -/
theorem inspect_exactly_crowded (o : Options) (t : Text) (n : Node) (ho : o.Usable)
    (hn : n.InText t) :
    (∀ signature, n.firstChild? .syntaxList = some signature → Crowded t n signature →
      ∃ v insert, inspect o t n = .ok [v] ∧ v.cause = .multilineConstructor ∧
        v.node = signature ∧ v.fix = some (signature.replace insert) ∧
        v.message = message.toList ++ '\n' :: insert) ∧
    ((∀ signature, n.firstChild? .syntaxList = some signature → ¬ Crowded t n signature) →
      inspect o t n = .ok []) := by
  rw [inspect_eq ho hn, violations]
  cases hsignature : n.firstChild? .syntaxList with
  | none => simp
  | some signature =>
    simp only [Option.some.injEq, forall_eq', ← crowds_iff_crowded]
    constructor
    · intro hcrowded
      rw [if_pos hcrowded]
      exact ⟨_, _, rfl, rfl, rfl, rfl, rfl⟩
    · intro hflat
      rw [if_neg hflat]

def laterPairText : Text := "constructor(a,\n  private b, c) {}".toList

def laterPairList : Node :=
  ⟨1, .syntaxList, .between 12 12 29, [
    ⟨2, .parameter, .between 12 12 13, []⟩,
    ⟨3, .parameter, .between 14 17 26, [
      ⟨4, .syntaxList, .between 14 17 24, [⟨5, .privateKeyword, .between 14 17 24, []⟩]⟩]⟩,
    ⟨6, .parameter, .between 27 28 29, []⟩]⟩

def laterPair : Node :=
  ⟨0, .constructor, .between 0 0 33, [laterPairList]⟩

theorem inspect_exactly_crowded_laterPair : Options.Usable {} ∧ laterPair.InText laterPairText ∧
    Crowded laterPairText laterPair laterPairList ∧
    ∃ v insert, inspect {} laterPairText laterPair = .ok [v] ∧ v.node = laterPairList ∧
      v.fix = some (laterPairList.replace insert) ∧
      v.message = message.toList ++ '\n' :: insert := by
  have hin : laterPair.InText laterPairText := by decide
  have hcrowded : Crowded laterPairText laterPair laterPairList := by decide
  obtain ⟨v, insert, hinspect, -, hnode, hfix, hmessage⟩ :=
    (inspect_exactly_crowded {} laterPairText laterPair (by decide) hin).1 _ rfl hcrowded
  exact ⟨by decide, hin, hcrowded, v, insert, hinspect, hnode, hfix, hmessage⟩

end Constructor

end LayoutLint
