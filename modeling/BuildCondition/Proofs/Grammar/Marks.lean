import BuildCondition.Proofs.Grammar.Acceptance
import BuildCondition.Proofs.Mode

/-!
# What an expression keeps of its tokens

An expression can be read in the order of the condition: a negation before its operand, a call
before its arguments, and an operator between what stands on its two sides. What one meets are the
tokens, all but parentheses and commas, with their texts (§2), and every expression starts where the
first of them does that stands for an operand, a negation or a call (§3). So nothing that is written
in a condition is lost, and nothing is moved or taken twice.
-/

namespace BuildCondition

/-! ## §1  Marks -/

/-- What a token leaves behind in an expression. -/
inductive Mark where
  /-- an operand of one token, with its sigil if it is a reference -/
  | operand (offset : Nat) (sigil : Option Sigil) (text : String)
  | call (offset : Nat) (name : String)
  | not (offset : Nat)
  | comparison (op : Comparison)
  | connective (op : Connective)
  deriving DecidableEq, Repr

namespace Mark

/-- Where a mark stands; for operators, an expression does not say. -/
def offset? : Mark → Option Nat
  | operand n _ _ => some n
  | call n _ => some n
  | not n => some n
  | comparison _ => none
  | connective _ => none

end Mark

namespace Token

/-- What is left of a token in an expression: of references the text between the parentheses, and of
parentheses and commas nothing. -/
def mark? (t : Token) : Option Mark :=
  match t.lexeme with
  | .numeral s => some (.operand t.offset none s)
  | .word s => some (.operand t.offset none s)
  | .quoted s => some (.operand t.offset none s)
  | .reference r =>
      some (.operand t.offset (some r.sigil) (String.ofList (r.text.toList.drop 2).dropLast))
  | .functionName name => some (.call t.offset name)
  | .not => some (.not t.offset)
  | .comparison op => some (.comparison op)
  | .connective op => some (.connective op)
  | .leftParen | .rightParen | .comma => none

theorem filterMap_mark?_cons (t : Token) (ts : List Token) :
    (t :: ts).filterMap mark? = t.mark?.toList ++ ts.filterMap mark? := by
  cases h : t.mark? with
  | none => rw [List.filterMap_cons_none h, Option.toList_none, List.nil_append]
  | some m => rw [List.filterMap_cons_some h, Option.toList_some, List.singleton_append]

theorem offset_of_mark? {t : Token} {m : Mark} {n : Nat} (h : t.mark? = some m)
    (hn : m.offset? = some n) : n = t.offset := by
  obtain ⟨l, k⟩ := t
  cases l <;> cases h <;> cases hn <;> rfl

end Token

namespace Expr

mutual

/-- The marks in an expression, in the order of the condition. -/
def marks : Expr → List Mark
  | literal n _ s => [.operand n none s]
  | template n s => [.operand n none s]
  | reference n r => [.operand n (some r.sigil) r.body]
  | call n name arguments => .call n name :: marksBehind [] arguments
  | not n e => .not n :: marks e
  | comparison op left right => marks left ++ .comparison op :: marks right
  | chain op first others => marks first ++ marksBehind [.connective op] others

/-- The marks in some expressions, with something before each of them. -/
def marksBehind (before : List Mark) : List Expr → List Mark
  | [] => []
  | e :: es => before ++ (marks e ++ marksBehind before es)

end

/-! ## §2  The marks are those of the tokens -/

theorem marks_joined (op : Connective) (first : Expr) (others : List Expr) :
    (joined op first others).marks = first.marks ++ marksBehind [.connective op] others := by
  cases others with
  | nil => simp [joined, marksBehind]
  | cons second others => rw [joined, marks]

theorem body_of_text (r : Reference) :
    String.ofList (r.text.toList.drop 2).dropLast = r.body := by
  rw [Reference.text, String.toList_ofList, List.drop_succ_cons, List.drop_succ_cons, List.drop_zero,
    List.dropLast_concat, String.ofList_toList]

theorem marks_operand? {t : Token} {e : Expr} (h : t.operand? = some e) :
    e.marks = [t].filterMap Token.mark? := by
  have hmark : e.marks = t.mark?.toList := by
    rcases Token.operand?_cases h with ⟨v, s, rfl, hl⟩ | ⟨s, rfl, hl⟩ | ⟨r, rfl, hl⟩
    · rcases hl with hl | hl | hl <;> simp only [marks, Token.mark?, hl, Option.toList_some]
    · simp only [marks, Token.mark?, hl, Option.toList_some]
    · simp only [marks, Token.mark?, hl, body_of_text, Option.toList_some]
  rw [hmark, Token.filterMap_mark?_cons, List.filterMap_nil, List.append_nil]

end Expr

open BuildCondition.Expr

mutual

/-- The marks in an expression are those of the tokens that make it. -/
theorem Derives.marks_eq : ∀ {c d ts e}, Derives c d ts e → e.marks = ts.filterMap Token.mark?
  | _, _, _, _, .expr h => by
      rw [marks_joined]
      exact h.marks_eq fun _ => rfl
  | _, _, _, _, .conjunction h => by
      rw [marks_joined]
      exact h.marks_eq fun _ => rfl
  | _, _, _, _, .negation h => by
      rw [marks, h.marks_eq]
      rfl
  | _, _, _, _, .operand h => h.marks_eq
  | _, _, _, _, .equality _ h h' => by
      rw [marks, h.marks_eq, h'.marks_eq, List.filterMap_append]
      rfl
  | _, _, _, _, .loneRelation h => h.marks_eq
  | _, _, _, _, .relation _ h h' => by
      rw [marks, h.marks_eq, h'.marks_eq, List.filterMap_append]
      rfl
  | _, _, _, _, .lonePrimary h => h.marks_eq
  | _, _, _, _, .group h => by
      rw [h.marks_eq, List.filterMap_cons_none rfl, List.filterMap_append]
      exact (List.append_nil _).symm
  | _, _, _, _, .emptyCall => rfl
  | _, _, _, _, .call h => by
      have harguments := h.marks_eq fun _ => rfl
      rw [Token.filterMap_mark?_cons, Token.filterMap_mark?_cons, List.filterMap_append,
        ← harguments]
      exact congrArg (_ :: ·) (List.append_nil _).symm
  | _, _, _, _, .token h => marks_operand? h

theorem DerivesList.marks_eq : ∀ {sep c d ts first others}, DerivesList sep c d ts first others →
    ∀ {between : List Mark}, (∀ n, (⟨sep, n⟩ : Token).mark?.toList = between) →
    first.marks ++ marksBehind between others = ts.filterMap Token.mark?
  | _, _, _, _, _, _, .last h, _, _ => by
      rw [marksBehind, List.append_nil, h.marks_eq]
  | _, _, _, _, _, _, .more h h', _, hsep => by
      rw [marksBehind, h'.marks_eq hsep, h.marks_eq, List.filterMap_append,
        Token.filterMap_mark?_cons, hsep]

end

/-! ## §3  Where expressions start -/

namespace Expr

/-- Reading an expression starts with a mark that says where the expression starts. -/
theorem head?_marks (e : Expr) : (e.marks.filterMap Mark.offset?).head? = some e.offset := by
  cases e with
  | literal | template | reference | call | not => rfl
  | comparison op left right =>
      rw [marks, List.filterMap_append, List.head?_append, head?_marks left]
      rfl
  | chain op first others =>
      rw [marks, List.filterMap_append, List.head?_append, head?_marks first]
      rfl

end Expr

/-- Along some tokens in their order, so are their marks. -/
theorem sorted_marks {ts : List Token} (h : ts.Pairwise fun t u => t.offset < u.offset) :
    ((ts.filterMap Token.mark?).filterMap Mark.offset?).Pairwise (· < ·) := by
  rw [List.pairwise_filterMap, List.pairwise_filterMap]
  refine h.imp fun {t u} hlt m hm m' hm' n hn n' hn' => ?_
  rw [Token.offset_of_mark? hm hn, Token.offset_of_mark? hm' hn']
  exact hlt

/-- **Nothing that is written is lost, taken twice or moved.** Read in the order of the condition, an
expression has the texts, names and operators of the tokens, all but parentheses and commas, and the
offsets of the tokens where it has any. And every expression in it has the offset of the first
operand, negation or call that is met in reading it. -/
theorem marks_of_parse {mode : Mode} {limit : Nat} {condition : String} {e : Expr}
    (h : Expr.parse mode limit condition = .ok e) :
    ∃ ts : List Token,
      tokenize mode condition = .ok (ts.map .token ++ [.endOfInput condition.length]) ∧
      e.marks = ts.filterMap Token.mark? ∧
      (e.marks.filterMap Mark.offset?).Pairwise (· < ·) ∧
      ∀ x ∈ e.parts, (x.marks.filterMap Mark.offset?).head? = some x.offset := by
  obtain ⟨ts, hlex, d, _, hderives⟩ := parse_eq_ok_iff.mp h
  have hsorted : ts.Pairwise fun t u => t.offset < u.offset := by
    have hsorted := sorted_lexAt mode 0 condition.toList
    rwa [show lexAt mode 0 condition.toList = ⟨ts, _⟩ from hlex] at hsorted
  refine ⟨ts, tokenize_eq_ok_iff.mpr hlex, hderives.marks_eq, ?_, fun x _ => x.head?_marks⟩
  rw [hderives.marks_eq]
  exact sorted_marks hsorted

/-- A comparison in parentheses starts with its first operand, while the chain around it starts with
the negation. -/
theorem marks_of_parse_around_parentheses :
    ∃ x e, Expr.parse .everything 3 "!($(a) < 'b%') or f(1, c)" = .ok e ∧
      e.marks =
        [.not 0, .operand 2 (some .property) "a", .comparison .less, .operand 9 none "b%",
          .connective .or, .call 18 "f", .operand 20 none "1", .operand 23 none "c"] ∧
      (∃ ts : List Token, tokenize .everything "!($(a) < 'b%') or f(1, c)" =
          .ok (ts.map .token ++ [.endOfInput 25]) ∧
        e.marks = ts.filterMap Token.mark?) ∧
      x ∈ e.parts ∧ (x.marks.filterMap Mark.offset?).head? = some 2 ∧ e.offset = 0 := by
  let inside := Expr.comparison .less (.reference 2 ⟨.property, "a"⟩) (.template 9 "b%")
  let whole := Expr.chain .or (.not 0 inside) [.call 18 "f" [.ofNumeral 20 "1", .ofWord 23 "c"]]
  have hparse : Expr.parse .everything 3 "!($(a) < 'b%') or f(1, c)" = .ok whole := by rfl
  have hinside : inside ∈ whole.parts :=
    List.mem_cons_of_mem _ (List.mem_cons_of_mem _ List.mem_cons_self)
  obtain ⟨ts, hts, hmarks, _, hstarts⟩ := marks_of_parse hparse
  exact ⟨inside, whole, hparse, rfl, ⟨ts, hts, hmarks⟩, hinside, hstarts inside hinside, rfl⟩

end BuildCondition
