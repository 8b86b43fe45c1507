import BuildCondition.Bag
import BuildCondition.Proofs.Embedding
import BuildCondition.Proofs.Text.LetterCase
import BuildCondition.Proofs.VersionFunctions

/-!
# Equality and letter case

Equality compares the lower case forms of two texts as a whole. For texts whose characters have the
same lower case one by one, that is nearly the same as comparing them character by character. The
exception is the capital sigma: at the end of a word it takes the final form, which no small sigma
inside a text is turned into.
-/

namespace BuildCondition

open BuildCondition.Expr BuildCondition.Text

/-- A text as it is written into a condition: escaped and between quotes. -/
def quotedText (s : String) : String :=
  inQuotes (String.ofList (Percent.escape s.toList))

section

variable {mode : Mode} {limit : Nat} {place : Location} {state : BuildState} {op : Comparison}

theorem writtenText_text (s : String) :
    writtenText [.text s] = String.ofList (Percent.escape s.toList) := by
  simp [writtenText, Part.written]

theorem cutApart_quotedText (s : String) :
    CutApart mode (quotedText s).toList [⟨.quoted (writtenText [.text s]), 0⟩] := by
  intro rest _
  have hspells := Lexeme.spells_quoted_of_quoteEnd (quoteEnd_writtenText mode [.text s])
  rw [String.ofList_toList, source_quoted, writtenText_text] at hspells
  rw [writtenText_text]
  exact .lexeme hspells trivial

/-- An escaped text between quotes has the text as its value, and counts as that text. -/
theorem operand_quotedText (s : String) (n : Nat) :
    (ofQuoted n (writtenText [.text s])).value.result state = .ok (.text s) ∧
      (asOperand (ofQuoted n (writtenText [.text s])) (.text s)).text = s := by
  have hholds : ∀ part ∈ [Part.text s], part.HoldsIn state :=
    List.forall_mem_singleton.mpr trivial
  have hmeant : meantText [.text s] = s := by
    simp [meantText, Part.meant]
  constructor
  · rw [Asking.result, run_value_writtenText hholds, hmeant]
  · unfold ofQuoted
    split
    · rfl
    · -- nothing has been escaped, so that the source text is the text
      rename_i hplain
      have hpercent := Template.not_mem_of_plain (Bool.eq_false_iff.mpr hplain)
      have hsame : Percent.escape s.toList = s.toList := by
        rw [writtenText_text, String.toList_ofList] at hpercent
        rw [← Percent.unescape_of_not_mem hpercent, Percent.unescape_escape]
      show writtenText [.text s] = s
      rw [writtenText_text, hsame, String.ofList_toList]

/-- Equality of two texts is equality of their lower case forms. -/
theorem evaluate_equality_quotedText (hop : op.isEquality = true) (hlimit : 0 < limit)
    (a b : String) :
    (Condition.evaluate mode limit place
        (comparisonText op (quotedText a) (quotedText b))).result state =
      .ok ((lower a == lower b) == (op == .equal)) := by
  have hderives : ∀ s : String, Derives .primary 0 [⟨.quoted (writtenText [.text s]), 0⟩]
      (ofQuoted 0 (writtenText [.text s])) := fun _ => .token rfl
  have hparse := parse_comparison op (@cutApart_quotedText mode a) (cutApart_quotedText b)
    (hderives a) (hderives b) hlimit
  rw [relocate_ofQuoted] at hparse
  obtain ⟨hleft, hleft'⟩ := @operand_quotedText state a 0
  obtain ⟨hright, hright'⟩ := @operand_quotedText state b
    ((quotedText a).length + (op.text.length + 2) + 0)
  rw [result_evaluate_of_parse hparse, result_evaluate_comparison op hleft hright,
    Operand.compare, if_pos hop, Operand.sameText, hleft', hright']
  rfl

/-- **Equality ignores letter case character by character, but for the sigma at the end of a word.**
Two texts whose characters have the same lower case one by one are equal if and only if a capital
sigma that ends a word in one of them is a capital sigma in the other. -/
theorem equality_of_same_letters (hlimit : 0 < limit) {a b : String}
    (h : a.toList.map lowerChar = b.toList.map lowerChar) :
    ∃ same : Bool,
      (Condition.evaluate mode limit place
        (comparisonText .equal (quotedText a) (quotedText b))).result state = .ok same ∧
      (Condition.evaluate mode limit place
        (comparisonText .notEqual (quotedText a) (quotedText b))).result state = .ok (!same) ∧
      (same = true ↔
        SigmasKept [] a.toList b.toList ∧ SigmasKept [] b.toList a.toList) := by
  refine ⟨lower a == lower b, ?_, ?_, ?_⟩
  · rw [evaluate_equality_quotedText rfl hlimit]
    simp
  · rw [evaluate_equality_quotedText rfl hlimit]
    cases lower a == lower b <;> rfl
  · rw [← lowercase_eq_iff_sigmasKept h, beq_iff_eq, lower, lower]
    exact String.ofList_inj

/-- Inside a word, a capital sigma and a small one are the same letter; so are the letter K and the
sign for kelvin. -/
theorem equality_of_same_letters_inside_word :
    0 < 50 ∧ "\u03A3K%".toList.map lowerChar = "\u03C3\u212A%".toList.map lowerChar ∧
      comparisonText .equal (quotedText "\u03A3K%") (quotedText "\u03C3\u212A%") =
        "'\u03A3K%25' == '\u03C3\u212A%25'" ∧
      (Condition.evaluate .everything 50 .unknown "'\u03A3K%25' == '\u03C3\u212A%25'").result
        Bag.empty.state = .ok true := by
  have hsame : "\u03A3K%".toList.map lowerChar = "\u03C3\u212A%".toList.map lowerChar := by
    decide +kernel
  have htext : comparisonText .equal (quotedText "\u03A3K%") (quotedText "\u03C3\u212A%") =
      "'\u03A3K%25' == '\u03C3\u212A%25'" := by
    decide +kernel
  -- the only capital sigma has a letter behind it
  have hkept : SigmasKept [] "\u03A3K%".toList "\u03C3\u212A%".toList := by
    refine sigmasKept_cons.mpr ⟨fun _ hfinal => absurd hfinal (by decide +kernel), ?_⟩
    refine sigmasKept_cons.mpr ⟨fun hsigma => absurd hsigma (by decide), ?_⟩
    exact sigmasKept_cons.mpr ⟨fun hsigma => absurd hsigma (by decide), fun _ hi => hi.capital⟩
  have hkept' : SigmasKept [] "\u03C3\u212A%".toList "\u03A3K%".toList := by
    refine sigmasKept_cons.mpr ⟨fun hsigma => absurd hsigma (by decide), ?_⟩
    refine sigmasKept_cons.mpr ⟨fun hsigma => absurd hsigma (by decide), ?_⟩
    exact sigmasKept_cons.mpr ⟨fun hsigma => absurd hsigma (by decide), fun _ hi => hi.capital⟩
  obtain ⟨same, hequal, _, hiff⟩ :=
    @equality_of_same_letters .everything 50 .unknown Bag.empty.state (by decide) _ _ hsame
  rw [htext, hiff.mpr ⟨hkept, hkept'⟩] at hequal
  exact ⟨by decide, hsame, htext, hequal⟩

/-- At the end of a word they are not: the capital sigma there has another lower case, though not by
itself. -/
theorem sigma_at_end_of_word_differs :
    "a\u03A3".toList.map lowerChar = "a\u03C3".toList.map lowerChar ∧
      comparisonText .equal (quotedText "a\u03A3") (quotedText "a\u03C3") =
        "'a\u03A3' == 'a\u03C3'" ∧
      (Condition.evaluate .everything 50 .unknown "'a\u03A3' == 'a\u03C3'").result
        Bag.empty.state = .ok false := by
  have hresult : ((Condition.evaluate .everything 50 .unknown "'a\u03A3' == 'a\u03C3'").result
      Bag.empty.state).toOption = some false := by
    decide +kernel
  exact ⟨by decide +kernel, by decide +kernel, toOption_eq_some.mp hresult⟩

end

end BuildCondition
