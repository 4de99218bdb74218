import LayoutLint.Text.Blank
import LayoutLint.Proofs.ReportPlaces

/-! What the fix of a keyword takes out of a file. It is the first character of the trivia before
the keyword, whatever that is. A blank may go, for the fix puts in a line break. A comment loses
the mark that opens it, and its words are left behind as source text. -/
namespace LayoutLint

namespace Text

/-- Blanks and comments, one after the other. A comment ends with its line, or with the first mark
that closes it. -/
inductive IsTrivia : Text → Prop
  | nil : IsTrivia []
  | blank {c : Char} {rest : Text} (hblank : isBlank c) (hrest : IsTrivia rest) :
      IsTrivia (c :: rest)
  | lineComment {body rest : Text} (hbody : ∀ c ∈ body, isLineBreak c = false)
      (hend : ∀ c ∈ rest.head?, isLineBreak c) (hrest : IsTrivia rest) :
      IsTrivia ('/' :: '/' :: body ++ rest)
  | blockComment {body rest : Text} (hbody : ¬ ['*', '/'] <:+: body) (hrest : IsTrivia rest) :
      IsTrivia ('/' :: '*' :: body ++ '*' :: '/' :: rest)

def OpensComment (t : Text) : Prop :=
  ['/', '/'] <+: t ∨ ['/', '*'] <+: t

instance (t : Text) : Decidable t.OpensComment :=
  inferInstanceAs (Decidable (['/', '/'] <+: t ∨ ['/', '*'] <+: t))

theorem IsTrivia.take_one {t : Text} (h : t.IsTrivia) :
    t.OpensComment ∧ t.take 1 = ['/'] ∨
      ¬ t.OpensComment ∧ (t.take 1 = [] ∨ ∃ c, isBlank c ∧ t.take 1 = [c]) := by
  cases h with
  | nil => exact Or.inr ⟨by decide, Or.inl rfl⟩
  | @blank c rest hblank =>
    have hne : c ≠ '/' := by
      rintro rfl
      exact absurd hblank (by decide)
    exact Or.inr ⟨by simp [OpensComment, hne.symm], Or.inr ⟨c, hblank, rfl⟩⟩
  | lineComment => exact Or.inl ⟨Or.inl (by simp), rfl⟩
  | blockComment => exact Or.inl ⟨Or.inr (by simp), rfl⟩

def solid (t : Text) : Text :=
  t.filter (!isBlank ·)

@[simp] theorem solid_append (t u : Text) : (t ++ u).solid = t.solid ++ u.solid :=
  List.filter_append t u

theorem solid_eq_nil_iff {t : Text} : t.solid = [] ↔ ∀ c ∈ t, isBlank c := by
  simp [solid, List.filter_eq_nil_iff]

/-- White space in place of a part of a text leaves the rest, so the text is the same but for white
space if that part was white space as well. -/
theorem solid_splice_eq_iff {t insert : Text} {i j : Nat} (hij : i ≤ j)
    (hinsert : insert.solid = []) :
    (t.splice i j insert).solid = t.solid ↔ (t.slice i j).solid = [] := by
  have hsolid : t.solid = solid (t.take i) ++ (t.slice i j).solid ++ solid (t.drop j) := by
    rw [← solid_append, ← solid_append]
    exact congrArg solid (splice_slice t hij).symm
  rw [splice, solid_append, solid_append, hinsert, List.append_nil, hsolid, List.append_assoc,
    List.append_cancel_left_eq, eq_comm, List.append_left_eq_self]

end Text

def Span.trivia (s : Span) (source : Text) : Text :=
  source.slice s.fullStart s.start

theorem Options.solid_blanks (o : Options) (level : Nat) : (o.blanks level).solid = [] :=
  o.filter_blanks level (by decide) (by decide)

namespace Keyword

theorem slice_breakBefore (target : Node) (t indent : Text) :
    t.slice (breakBefore target indent).start (breakBefore target indent).stop =
      (target.span.trivia t).take 1 := by
  have hwidth : (breakBefore target indent).stop - (breakBefore target indent).start =
      min 1 (target.span.start - target.span.fullStart) := Nat.add_sub_cancel_left ..
  rw [Text.slice, hwidth, Span.trivia, Text.slice, List.take_take]
  rfl

theorem solid_splice_breakBefore_iff (target : Node) (t : Text) (o : Options) (level : Nat) :
    (t.splice (breakBefore target (o.blanks level)).start
        (breakBefore target (o.blanks level)).stop ('\n' :: o.blanks level)).solid = t.solid ↔
      Text.solid ((target.span.trivia t).take 1) = [] := by
  have hinsert : Text.solid ('\n' :: o.blanks level) = [] := o.solid_blanks level
  rw [Text.solid_splice_eq_iff (Fix.start_le_stop _) hinsert, slice_breakBefore]

end Keyword

namespace Source

/-- In a file whose trivia is blanks and comments, the fix of a keyword takes out a blank or
nothing, and the text stays the same but for white space. Where a comment comes first, the fix
takes out the mark that opens it instead, and the text does not stay the same. -/
theorem solid_fixed_iff (limits : Limits) (o : Options) (s : Source) {vs : List Violation}
    (hs : s.root.InText s.text)
    (htrivia : ∀ n ∈ s.root.preorder, (n.span.trivia s.text).IsTrivia)
    (h : (s.inspect o).found = .ok vs) :
    ∀ v ∈ vs, v.cause = .ownLine → ∃ f fixed, v.fix = some f ∧ f.apply limits s.text = .ok fixed ∧
      (¬ (v.node.span.trivia s.text).OpensComment →
        (s.text.slice f.start f.stop = [] ∨
          ∃ c, isBlank c ∧ s.text.slice f.start f.stop = [c]) ∧
        fixed.solid = s.text.solid) ∧
      ((v.node.span.trivia s.text).OpensComment →
        s.text.slice f.start f.stop = ['/'] ∧ fixed.solid ≠ s.text.solid) := by
  obtain rfl := eq_violations_of_found hs h
  intro v hv hcause
  obtain ⟨n, hn, c, hreport⟩ := exists_reports_of_mem hv
  have hnode : v.node ∈ s.root.preorder :=
    Node.mem_preorder_trans (Node.mem_preorder_of_mem_children hreport.mem_children) hn
  have happly : ∀ f, v.fix = some f →
      f.apply limits s.text = .ok (s.text.splice f.start f.stop f.insert) :=
    fun f => hreport.apply_fix (hs.of_mem hn)
  cases hreport with
  | crowded => cases hcause
  | @shared _ previous target hpair hline =>
    have hsolid := Keyword.solid_splice_breakBefore_iff target s.text o
      (o.levelOf ((s.text.positionAt target.span.start).character - Keyword.offset))
    refine ⟨_, _, rfl, happly _ rfl, ?_⟩
    rw [Keyword.slice_breakBefore]
    -- The one character taken out is the first of the trivia: a slash, a blank, or none at all.
    rcases (htrivia target hnode).take_one with ⟨hopens, hslash⟩ | ⟨hplain, hfirst⟩
    · rw [hslash] at hsolid
      exact ⟨fun hnot => absurd hopens hnot,
        fun _ => ⟨hslash, fun hkept => absurd (hsolid.1 hkept) (by decide)⟩⟩
    · refine ⟨fun _ => ⟨hfirst, hsolid.2 ?_⟩, fun hopens => absurd hopens hplain⟩
      rcases hfirst with hnone | ⟨c, hblank, hone⟩
      · rw [hnone]
        rfl
      · rw [hone, Text.solid_eq_nil_iff]
        simpa using hblank

def commentedFile : Source where
  name := "commented.ts".toList
  text := "try {} catch {}/* b */ finally {}".toList
  root := ⟨0, .sourceFile, .between 0 0 33, [
    ⟨1, .tryStatement, .between 0 0 33, [
      ⟨2, .block, .between 3 4 6, []⟩, ⟨3, .catchClause, .between 6 7 15, []⟩,
      ⟨4, .finallyKeyword, .between 15 23 30, []⟩, ⟨5, .block, .between 30 31 33, []⟩]⟩]⟩
  name_ne_nil := by decide
  root_le_length := by decide

theorem isTrivia_commentedFile :
    ∀ n ∈ commentedFile.root.preorder, (n.span.trivia commentedFile.text).IsTrivia := by
  have hall : ∀ n ∈ commentedFile.root.preorder, n.span.trivia commentedFile.text ∈
      [[], [' '], '/' :: '*' :: " b ".toList ++ '*' :: '/' :: [' ']] := by decide
  have hspace : Text.IsTrivia [' '] := .blank (by decide) .nil
  intro n hn
  have htrivia := hall n hn
  simp only [List.mem_cons, List.not_mem_nil, or_false] at htrivia
  rcases htrivia with h | h | h
  · exact h ▸ .nil
  · exact h ▸ hspace
  · exact h ▸ .blockComment (by decide) hspace

theorem solid_fixed_iff_commentedFile : commentedFile.root.InText commentedFile.text ∧
    (∀ n ∈ commentedFile.root.preorder, (n.span.trivia commentedFile.text).IsTrivia) ∧
    ∃ v w f g left right, (commentedFile.inspect {}).found = .ok [v, w] ∧
      v.node.kind = .catchClause ∧ v.fix = some f ∧ f.apply .usual commentedFile.text = .ok left ∧
      left.solid = commentedFile.text.solid ∧
      w.node.kind = .finallyKeyword ∧ w.fix = some g ∧
      g.apply .usual commentedFile.text = .ok right ∧
      commentedFile.text.slice g.start g.stop = ['/'] ∧
      right.solid ≠ commentedFile.text.solid := by
  have hin : commentedFile.root.InText commentedFile.text := by decide
  have hfound := found_inspect (o := {}) (by decide) hin
  have hall := solid_fixed_iff .usual {} commentedFile hin isTrivia_commentedFile hfound
  rw [violations, Node.constructs_eq] at hfound hall
  obtain ⟨f, left, hf, hleft, hkept, -⟩ := hall _ List.mem_cons_self rfl
  obtain ⟨g, right, hg, hright, -, hlost⟩ := hall _ (List.mem_cons_of_mem _ List.mem_cons_self) rfl
  obtain ⟨hslash, hne⟩ := hlost (by decide)
  exact ⟨hin, isTrivia_commentedFile, _, _, f, g, left, right, hfound, rfl, hf, hleft,
    (hkept (by decide)).2, rfl, hg, hright, hslash, hne⟩

/-- The fix of the finally keyword opens up the comment before it. -/
theorem commentedFile_loses_slash : commentedFile.root.WellNested ∧
    (∀ n ∈ commentedFile.root.preorder, (n.span.trivia commentedFile.text).IsTrivia) ∧
    ∃ vs, (commentedFile.inspect {}).found = .ok vs ∧
      ∃ v ∈ vs, v.cause = .ownLine ∧ ∃ f, v.fix = some f ∧
        f.apply .usual commentedFile.text =
          .ok ("try {} catch {}\n".toList ++ List.replicate 24 ' ' ++ "* b */ finally {}".toList) ∧
        ¬ (commentedFile.text.slice f.start f.stop = [] ∨
          ∃ c, isBlank c ∧ commentedFile.text.slice f.start f.stop = [c]) := by
  have hs : commentedFile.root.WellNested := by decide
  have hfound := found_inspect (o := {}) (by decide) (hs.inText commentedFile.root_le_length)
  rw [violations, Node.constructs_eq] at hfound
  refine ⟨hs, isTrivia_commentedFile, _, hfound, _, List.mem_cons_of_mem _ List.mem_cons_self, rfl,
    _, rfl, (Fix.apply_of_le (by decide)).trans (congrArg Except.ok (by decide +kernel)), ?_⟩
  have hslash : commentedFile.text.slice 15 16 = ['/'] := rfl
  rintro (hnone | ⟨c, hblank, hone⟩)
  · cases hslash.symm.trans hnone
  · obtain rfl := List.singleton_inj.1 (hslash.symm.trans hone)
    exact absurd hblank (by decide)

end Source

end LayoutLint
