import LayoutLint.Proofs.Batch
import LayoutLint.Proofs.PlainReport
import LayoutLint.Proofs.Quoted

/-! Fixes in words. The words for a fix tell the fix as well as where they end, so that the message
of a refusal tells both the fix that is refused and the reason. -/
namespace LayoutLint

theorem Text.Printable.unbroken {t : Text} (h : t.Printable) : t.Unbroken :=
  fun c hc => isHeadlineEnd_of_isPrintable (h c hc)

namespace Fix

variable {f g : Fix} {rest rest' : Text}

theorem text_eq (f : Fix) : f.text = "fix@".toList ++ (Text.ofNat f.start ++
    ('+' :: Text.ofNat f.width ++ (" -> ".toList ++ f.insert.quoted))) := by
  simp only [text, phrase, Phrase.text_cons, Phrase.text_nil, Part.text, Text.ofInt_natCast,
    List.append_nil, List.cons_append, List.nil_append]

theorem text_append (f : Fix) (rest : Text) : f.text ++ rest =
    "fix@".toList ++ (Text.ofNat f.start ++ '+' :: (Text.ofNat f.width ++
      ' ' :: ("-> ".toList ++ (f.insert.quoted ++ rest)))) := by
  rw [text_eq, List.append_assoc, List.append_assoc, List.append_assoc, List.append_assoc]
  rfl

theorem text_append_inj (h : f.text ++ rest = g.text ++ rest') : f = g ∧ rest = rest' := by
  rw [text_append, text_append] at h
  obtain ⟨hstart, hwidth⟩ := Text.ofNat_append_inj (by decide) (List.append_cancel_left h)
  obtain ⟨hwidth, hinsert⟩ := Text.ofNat_append_inj (by decide) hwidth
  obtain ⟨hinsert, hrest⟩ := Text.quoted_append_inj (List.append_cancel_left hinsert)
  cases f
  cases g
  exact ⟨Fix.mk.injEq .. ▸ ⟨hstart, hwidth, hinsert⟩, hrest⟩

theorem text_inj (h : f.text = g.text) : f = g := by
  have hnil : f.text ++ [] = g.text ++ [] := congrArg (· ++ []) h
  exact (text_append_inj hnil).1

theorem printable_text (f : Fix) : f.text.Printable := by
  have hat : Text.Printable "fix@".toList := Text.Ascii.printable (by decide)
  have harrow : Text.Printable " -> ".toList := Text.Ascii.printable (by decide)
  have hstart := (Text.ascii_ofNat f.start).printable
  have hwidth : Text.Printable ('+' :: Text.ofNat f.width) :=
    Text.printable_cons.2 ⟨rfl, (Text.ascii_ofNat f.width).printable⟩
  rw [text_eq, Text.printable_append, Text.printable_append, Text.printable_append,
    Text.printable_append]
  exact ⟨hat, hstart, hwidth, harrow, Text.printable_quoted f.insert⟩

end Fix

namespace Obstacle

/-- The obstacle is found in a text or in a batch, and not put in words of the caller's own. -/
def IsFound : Obstacle → Prop
  | .pastEnd _ | .overlaps _ => True
  | .stated _ => False

variable {o p : Obstacle}

theorem text_pastEnd (length : Nat) : (pastEnd length).phrase.text =
    "span ends past end of text (".toList ++ (Text.ofNat length ++ [')']) :=
  rfl

theorem text_overlaps (previous : Fix) :
    (overlaps previous).phrase.text = "overlaps ".toList ++ previous.text :=
  Phrase.text_cons ..

theorem printable_text (h : o.IsFound) : o.phrase.text.Printable := by
  cases o with
  | pastEnd length =>
    have hspan : Text.Printable "span ends past end of text (".toList :=
      Text.Ascii.printable (by decide)
    have hend : Text.Printable [')'] := Text.Ascii.printable (by decide)
    rw [text_pastEnd, Text.printable_append, Text.printable_append]
    exact ⟨hspan, (Text.ascii_ofNat length).printable, hend⟩
  | overlaps previous =>
    have hword : Text.Printable "overlaps ".toList := Text.Ascii.printable (by decide)
    rw [text_overlaps, Text.printable_append]
    exact ⟨hword, previous.printable_text⟩
  | stated reason => exact h.elim

theorem text_inj (ho : o.IsFound) (hp : p.IsFound) (h : o.phrase.text = p.phrase.text) :
    o = p := by
  -- The first letter tells the kind of obstacle.
  have hspan : ∀ length, (pastEnd length).phrase.text.head? = some 's' := fun _ => rfl
  have hoverlap : ∀ previous, (overlaps previous).phrase.text.head? = some 'o' := fun _ => rfl
  cases o with
  | pastEnd length =>
    cases p with
    | pastEnd length' =>
      rw [text_pastEnd, text_pastEnd] at h
      rw [(Text.ofNat_append_inj (by decide) (List.append_cancel_left h)).1]
    | overlaps previous =>
      have hhead := hoverlap previous
      rw [← h, hspan] at hhead
      exact absurd hhead (by decide)
    | stated reason => exact hp.elim
  | overlaps previous =>
    cases p with
    | pastEnd length =>
      have hhead := hspan length
      rw [← h, hoverlap] at hhead
      exact absurd hhead (by decide)
    | overlaps previous' =>
      rw [text_overlaps, text_overlaps] at h
      rw [Fix.text_inj (List.append_cancel_left h)]
    | stated reason => exact hp.elim
  | stated reason => exact ho.elim

end Obstacle

namespace Fault

variable {f g : Fix} {o p : Obstacle}

theorem message_badFix (f : Fix) (o : Obstacle) : (badFix f o).message =
    "Cannot apply ".toList ++ (f.text ++ (": ".toList ++ o.phrase.text)) := by
  rw [message, phrase, List.cons_append, Phrase.text_cons, Phrase.text_append, Phrase.text_cons]
  rfl

theorem message_badFix_inj (h : (badFix f o).message = (badFix g p).message) :
    f = g ∧ o.phrase.text = p.phrase.text := by
  rw [message_badFix, message_badFix] at h
  obtain ⟨hfix, hrest⟩ := Fix.text_append_inj (List.append_cancel_left h)
  exact ⟨hfix, List.append_cancel_left hrest⟩

theorem printable_message_badFix (h : o.IsFound) : (badFix f o).message.Printable := by
  have hcannot : Text.Printable "Cannot apply ".toList := Text.Ascii.printable (by decide)
  have hcolon : Text.Printable ": ".toList := Text.Ascii.printable (by decide)
  rw [message_badFix, Text.printable_append, Text.printable_append, Text.printable_append]
  exact ⟨hcannot, f.printable_text, hcolon, Obstacle.printable_text h⟩

theorem message_unwritable (excess : Excess) :
    (unwritable excess).message = excess.message :=
  List.append_nil _

end Fault

namespace Excess

theorem message_digits (limit : Nat) : (digits limit).message = "Exceeds the limit (".toList ++
    Text.ofNat limit ++ " digits) for integer string conversion".toList ++
    "; use sys.set_int_max_str_digits() to increase the limit".toList :=
  rfl

theorem printable_message_digits (limit : Nat) : (digits limit).message.Printable := by
  have hexceeds : Text.Printable "Exceeds the limit (".toList := Text.Ascii.printable (by decide)
  have hdigits : Text.Printable " digits) for integer string conversion".toList :=
    Text.Ascii.printable (by decide)
  have hadvice : Text.Printable
      "; use sys.set_int_max_str_digits() to increase the limit".toList :=
    Text.Ascii.printable (by decide)
  rw [message_digits, Text.printable_append, Text.printable_append, Text.printable_append]
  exact ⟨⟨⟨hexceeds, (Text.ascii_ofNat limit).printable⟩, hdigits⟩, hadvice⟩

end Excess

namespace Fix

variable {limits : Limits} {t u : Text} {fixes others : List Fix} {fault fault' : Fault}

theorem exists_of_applyAll_eq_error (h : applyAll limits t fixes = .error fault) :
    (∃ f o, fault = .badFix f o ∧ o.IsFound) ∨
      ∃ limit ∈ limits.digits, fault = .unwritable (.digits limit) := by
  have hraised : ∀ (f : Fix) (o : Obstacle), o.IsFound →
      (Fault.badFix f o).raised limits = fault →
      (∃ f o, fault = .badFix f o ∧ o.IsFound) ∨
        ∃ limit ∈ limits.digits, fault = .unwritable (.digits limit) := by
    intro f o ho heq
    have hraises : (Fault.badFix f o).Raises limits ((Fault.badFix f o).raised limits) :=
      Fault.raises_raised Fault.unquoted_badFix
    rw [heq] at hraises
    cases hraises with
    | itself => exact Or.inl ⟨f, o, rfl, ho⟩
    | exceeds hi hlimit => exact Or.inr ⟨_, hlimit, rfl⟩
  have houtcome := outcome_applyAll limits t fixes
  generalize applyAll limits t fixes = result at h houtcome
  cases houtcome with
  | overlapping => exact hraised _ (.overlaps _) trivial (Except.error.inj h)
  | outside => exact hraised _ (.pastEnd _) trivial (Except.error.inj h)
  | applied => cases h

theorem printable_message_of_applyAll (h : applyAll limits t fixes = .error fault) :
    fault.message.Printable := by
  obtain ⟨f, o, rfl, ho⟩ | ⟨limit, -, rfl⟩ := exists_of_applyAll_eq_error h
  · exact Fault.printable_message_badFix ho
  · rw [Fault.message_unwritable]
    exact Excess.printable_message_digits limit

theorem eq_of_message_eq (h : applyAll limits t fixes = .error fault)
    (h' : applyAll limits u others = .error fault') (hmessage : fault.message = fault'.message) :
    fault = fault' := by
  -- The first letter tells a refusal from a number that has too many digits.
  have hfix : ∀ f o, (Fault.badFix f o).message.head? = some 'C' := fun _ _ => rfl
  have hexcess : ∀ limit, (Fault.unwritable (.digits limit)).message.head? = some 'E' := by
    have hword : "Exceeds the limit (".toList.head? = some 'E' := by decide
    intro limit
    rw [Fault.message_unwritable, Excess.message_digits, List.head?_append, List.head?_append,
      List.head?_append, hword]
    rfl
  obtain ⟨f, o, rfl, ho⟩ | ⟨limit, hlimit, rfl⟩ := exists_of_applyAll_eq_error h
  · obtain ⟨g, p, rfl, hp⟩ | ⟨limit, -, rfl⟩ := exists_of_applyAll_eq_error h'
    · obtain ⟨rfl, hreason⟩ := Fault.message_badFix_inj hmessage
      rw [Obstacle.text_inj ho hp hreason]
    · have hhead := hexcess limit
      rw [← hmessage, hfix] at hhead
      exact absurd hhead (by decide)
  · obtain ⟨g, p, rfl, -⟩ | ⟨other, hother, rfl⟩ := exists_of_applyAll_eq_error h'
    · have hhead := hfix g p
      rw [← hmessage, hexcess] at hhead
      exact absurd hhead (by decide)
    · obtain rfl : limit = other := Option.some.inj (hlimit.symm.trans hother)
      rfl

end Fix

end LayoutLint
