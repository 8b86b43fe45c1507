import BuildCondition.Proofs.Embedding
import BuildCondition.Proofs.Lexeme.Marking

/-!
# Quoted texts that are taken as they are

A quoted text without references and escapes is kept as a literal, and is not filled in. That makes
no difference. Whether there is anything to fill in is noted while the end of the text is looked
for, and if there is nothing, filling in gives the text back and asks no questions. A template in the
place of the literal is read as the same text and the same version by all comparisons (§1). So any of
the literals that were quoted can be made templates, and nothing is to be seen of it (§2).
-/

namespace BuildCondition

theorem Lexeme.isQuoted_iff {l : Lexeme} : l.isQuoted = true ↔ ∃ s, l = .quoted s := by
  cases l <;> simp [isQuoted]

/-! ## §1  Operands that are alike -/

namespace Operand

variable {left right left' right' : Operand}

/-- Operands that no comparison tells apart. -/
structure Alike (o o' : Operand) : Prop where
  offset : o.offset = o'.offset
  value : o.value = o'.value
  text : o.text = o'.text
  version : o.version? = o'.version?

theorem version?_of_own_text {n : Nat} {s : String} {written : Option String}
    (h : written.getD s = s) : version? ⟨n, .text s, written⟩ = Version.read? s.toList := by
  cases written with
  | none => rfl
  | some t =>
      obtain rfl : t = s := h
      rfl

/-- A text that is written down is no other operand than the same text as a value. -/
theorem Alike.of_own_text (n : Nat) {s : String} {written written' : Option String}
    (h : written.getD s = s) (h' : written'.getD s = s) :
    Alike ⟨n, .text s, written⟩ ⟨n, .text s, written'⟩ where
  offset := rfl
  value := rfl
  text := h.trans h'.symm
  version := by rw [version?_of_own_text h, version?_of_own_text h']

theorem Alike.order (h : left.Alike left') (h' : right.Alike right') :
    left.order right = left'.order right' := by
  have hnumber : left.number? = left'.number? := congrArg Value.asNumber? h.value
  have hnumber' : right.number? = right'.number? := congrArg Value.asNumber? h'.value
  have hversions : left.versionOrder? right = left'.versionOrder? right' := by
    rw [versionOrder?, h.version, h'.version, versionOrder?]
  have hcomparable : left.isComparable = left'.isComparable := by
    rw [isComparable, hnumber, h.version, isComparable]
  have hblamed : left.blamed = left'.blamed := by
    rw [blamed, h.offset, h.value, blamed]
  have hblamed' : right.blamed = right'.blamed := by
    rw [blamed, h'.offset, h'.value, blamed]
  rw [Operand.order, hversions, hnumber, hnumber', hcomparable, hblamed, hblamed', Operand.order]

theorem Alike.compare (op : Comparison) (h : left.Alike left') (h' : right.Alike right') :
    compare op left right = compare op left' right' := by
  rw [Operand.compare, sameText, h.text, h'.text, h.order h', Operand.compare, sameText]

end Operand

namespace Expr

variable {e e' left left' right right' first : Expr} {others : List Expr} {f : Expr → Expr}

/-- Two expressions that are the same to whatever they stand in. One of them may have a text written
down that the other one only has for its value. -/
structure Interchangeable (e e' : Expr) : Prop where
  offset : e.offset = e'.offset
  value : e.value = e'.value
  written : e.written? = e'.written? ∨
    ∃ s, e'.value = .ok (.text s) ∧ e.written?.getD s = s ∧ e'.written?.getD s = s

/-- What a comparison makes of its first operand: it goes on to the second one. -/
def comparing (op : Comparison) (right : Expr) (o : Operand) : Asking Value :=
  right.value.bind fun w => .done ((Operand.compare op o (asOperand right w)).map Value.bool)

namespace Interchangeable

theorem refl (e : Expr) : e.Interchangeable e :=
  ⟨rfl, rfl, .inl rfl⟩

theorem of_template (n : Nat) {s : String} (h : Lexeme.hasReference s.toList = false) :
    (template n s).Interchangeable (literal n (.text s) s) where
  offset := rfl
  value := by
    show (Template.fill s).map Value.text = _
    rw [Template.fill_of_plain h]
    rfl
  written := .inr ⟨s, rfl, rfl, rfl⟩

/-- What is done with an operand is done with the other one, if no comparison tells them apart. -/
theorem bind_asOperand {α : Type} (h : e.Interchangeable e') (next next' : Operand → Asking α)
    (hnext : ∀ o o', o.Alike o' → next o = next' o') :
    (e.value.bind fun v => next (asOperand e v)) =
      e'.value.bind fun v => next' (asOperand e' v) := by
  rw [h.value]
  rcases h.written with hwritten | ⟨s, hvalue, hs, hs'⟩
  · congr 1
    funext v
    refine hnext _ _ ?_
    rw [asOperand, h.offset, hwritten]
    exact ⟨rfl, rfl, rfl, rfl⟩
  · rw [hvalue]
    refine hnext _ _ ?_
    rw [asOperand, h.offset]
    exact .of_own_text _ hs hs'

theorem comparison (op : Comparison) (h : left.Interchangeable left')
    (h' : right.Interchangeable right') :
    (Expr.comparison op left right).Interchangeable (Expr.comparison op left' right') where
  offset := h.offset
  value := by
    refine h.bind_asOperand (comparing op right) (comparing op right') fun o o' ho => ?_
    refine h'.bind_asOperand (fun p => .done ((Operand.compare op o p).map Value.bool))
      (fun p => .done ((Operand.compare op o' p).map Value.bool)) fun p p' hp => ?_
    rw [ho.compare op hp]
  written := .inl rfl

theorem judged (h : e.Interchangeable e') :
    (e.value.bind fun v => truthOf e.offset v) = e'.value.bind fun v => truthOf e'.offset v := by
  rw [h.value, h.offset]

theorem not (n : Nat) (h : e.Interchangeable e') :
    (Expr.not n e).Interchangeable (Expr.not n e') where
  offset := rfl
  value := by rw [Expr.value, h.judged, Expr.value]
  written := .inl rfl

theorem values (h : ∀ e ∈ others, (f e).Interchangeable e) :
    Expr.values (others.map f) = Expr.values others := by
  induction others with
  | nil => rfl
  | cons e es ih =>
      obtain ⟨he, hes⟩ := List.forall_mem_cons.mp h
      rw [List.map_cons, Expr.values, he.value, ih hes, Expr.values]

theorem call (n : Nat) (name : String) (h : ∀ e ∈ others, (f e).Interchangeable e) :
    (Expr.call n name (others.map f)).Interchangeable (Expr.call n name others) where
  offset := rfl
  value := by rw [Expr.value, values h, Expr.value]
  written := .inl rfl

theorem chainValue (op : Connective) (h : ∀ e ∈ others, (f e).Interchangeable e) :
    Expr.chainValue op (others.map f) = Expr.chainValue op others := by
  induction others with
  | nil => rfl
  | cons e es ih =>
      obtain ⟨he, hes⟩ := List.forall_mem_cons.mp h
      rw [List.map_cons, Expr.chainValue, he.judged, ih hes, Expr.chainValue]

theorem joined (op : Connective) (h : ∀ e ∈ first :: others, (f e).Interchangeable e) :
    (Expr.joined op (f first) (others.map f)).Interchangeable (Expr.joined op first others) := by
  obtain ⟨hfirst, hothers⟩ := List.forall_mem_cons.mp h
  cases others with
  | nil => exact hfirst
  | cons second others =>
      refine ⟨hfirst.offset, ?_, .inl rfl⟩
      show Expr.value (.chain op (f first) ((second :: others).map f)) = Expr.value (.chain op _ _)
      rw [Expr.value, hfirst.judged, chainValue op hothers, Expr.value]

end Interchangeable

/-! ## §2  Templates in the place of literals -/

mutual

/-- The same expression with templates in the place of the literals at some offsets. -/
def refill (chosen : Nat → Bool) : Expr → Expr
  | literal n v s => if chosen n then template n s else literal n v s
  | template n s => template n s
  | reference n r => reference n r
  | call n name arguments => call n name (refillAll chosen arguments)
  | not n operand => not n (refill chosen operand)
  | comparison op left right => comparison op (refill chosen left) (refill chosen right)
  | chain op first others => chain op (refill chosen first) (refillAll chosen others)

def refillAll (chosen : Nat → Bool) : List Expr → List Expr
  | [] => []
  | e :: es => refill chosen e :: refillAll chosen es

end

variable {chosen : Nat → Bool}

@[simp] theorem refillAll_eq_map (es : List Expr) :
    refillAll chosen es = es.map (refill chosen) := by
  induction es with
  | nil => rfl
  | cons e es ih => rw [refillAll, ih, List.map_cons]

theorem refill_joined (op : Connective) (first : Expr) (others : List Expr) :
    (joined op first others).refill chosen =
      joined op (first.refill chosen) (others.map (refill chosen)) := by
  cases others with
  | nil => rfl
  | cons second others =>
      show chain op _ (refillAll chosen _) = _
      rw [refillAll_eq_map]
      rfl

theorem refill_call (n : Nat) (name : String) (es : List Expr) :
    (call n name es).refill chosen = call n name (es.map (refill chosen)) :=
  congrArg (call n name) (refillAll_eq_map es)

/-- An operand of one token stays as it is if it is not chosen. -/
theorem refill_of_not_chosen {t : Token} (h : t.operand? = some e)
    (hchosen : chosen t.offset = false) : e.refill chosen = e := by
  have hliteral : ∀ v s, (literal t.offset v s).refill chosen = literal t.offset v s := by
    intro v s
    rw [refill, hchosen, if_neg Bool.false_ne_true]
  obtain ⟨l, n⟩ := t
  cases l with
  | word s =>
      cases h
      unfold ofWord
      split <;> exact hliteral _ s
  | numeral s =>
      cases h
      unfold ofNumeral
      split <;> exact hliteral _ s
  | quoted s =>
      cases h
      unfold ofQuoted
      split
      · rfl
      · exact hliteral _ s
  | reference r =>
      cases h
      rfl
  | connective | not | comparison | leftParen | rightParen | comma | functionName => cases h

/-- A quoted text that is chosen is filled in. -/
theorem interchangeable_refill_ofQuoted (n : Nat) (s : String) :
    ((ofQuoted n s).refill chosen).Interchangeable (ofQuoted n s) := by
  unfold ofQuoted
  split
  · exact .refl _
  · rename_i hplain
    rw [refill]
    split
    · exact .of_template n (Bool.eq_false_iff.mpr hplain)
    · exact .refl _

theorem interchangeable_refill_operand? {t : Token} (h : t.operand? = some e)
    (hchosen : chosen t.offset = true → t.lexeme.isQuoted = true) :
    (e.refill chosen).Interchangeable e := by
  cases hc : chosen t.offset with
  | false =>
      rw [refill_of_not_chosen h hc]
      exact .refl e
  | true =>
      obtain ⟨s, hs⟩ := Lexeme.isQuoted_iff.mp (hchosen hc)
      rw [Token.operand?, hs] at h
      cases h
      exact interchangeable_refill_ofQuoted t.offset s

end Expr

/-- Every token at a chosen offset is a quoted text. -/
def ChoosesQuoted (chosen : Nat → Bool) (ts : List Token) : Prop :=
  ∀ t ∈ ts, chosen t.offset = true → t.lexeme.isQuoted = true

instance {chosen : Nat → Bool} {ts : List Token} : Decidable (ChoosesQuoted chosen ts) :=
  inferInstanceAs (Decidable (∀ t ∈ ts, chosen t.offset = true → t.lexeme.isQuoted = true))

section Derivations

variable {chosen : Nat → Bool} {ts us : List Token} {t : Token}

theorem ChoosesQuoted.behind (h : ChoosesQuoted chosen (t :: ts)) : ChoosesQuoted chosen ts :=
  fun u hu => h u (List.mem_cons_of_mem t hu)

theorem ChoosesQuoted.left (h : ChoosesQuoted chosen (ts ++ us)) : ChoosesQuoted chosen ts :=
  fun u hu => h u (List.mem_append_left us hu)

theorem ChoosesQuoted.right (h : ChoosesQuoted chosen (ts ++ us)) : ChoosesQuoted chosen us :=
  fun u hu => h u (List.mem_append_right ts hu)

mutual

/-- What the tokens make is interchangeable with what they make if chosen quoted texts are always
filled in. -/
theorem Derives.interchangeable_refill : ∀ {c d ts e}, Derives c d ts e →
    ChoosesQuoted chosen ts → (e.refill chosen).Interchangeable e
  | _, _, _, _, .expr h, hc => by
      rw [Expr.refill_joined]
      exact .joined _ (h.interchangeable_refill hc)
  | _, _, _, _, .conjunction h, hc => by
      rw [Expr.refill_joined]
      exact .joined _ (h.interchangeable_refill hc)
  | _, _, _, _, .negation h, hc => .not _ (h.interchangeable_refill hc.behind)
  | _, _, _, _, .operand h, hc => h.interchangeable_refill hc
  | _, _, _, _, .equality _ hl hr, hc =>
      .comparison _ (hl.interchangeable_refill hc.left)
        (hr.interchangeable_refill hc.right.behind)
  | _, _, _, _, .loneRelation h, hc => h.interchangeable_refill hc
  | _, _, _, _, .relation _ hl hr, hc =>
      .comparison _ (hl.interchangeable_refill hc.left)
        (hr.interchangeable_refill hc.right.behind)
  | _, _, _, _, .lonePrimary h, hc => h.interchangeable_refill hc
  | _, _, _, _, .group h, hc => h.interchangeable_refill hc.behind.left
  | _, _, _, _, .emptyCall, _ => .refl _
  | _, _, _, _, .call h, hc => by
      rw [Expr.refill_call]
      exact .call _ _ (h.interchangeable_refill hc.behind.behind.left)
  | _, _, _, _, .token h, hc => Expr.interchangeable_refill_operand? h (hc _ List.mem_cons_self)

theorem DerivesList.interchangeable_refill : ∀ {sep c d ts first others},
    DerivesList sep c d ts first others → ChoosesQuoted chosen ts →
    ∀ e ∈ first :: others, (e.refill chosen).Interchangeable e
  | _, _, _, _, _, _, .last h, hc =>
      List.forall_mem_cons.mpr ⟨h.interchangeable_refill hc, List.forall_mem_nil _⟩
  | _, _, _, _, _, _, .more h hs, hc =>
      List.forall_mem_cons.mpr ⟨h.interchangeable_refill hc.left,
        hs.interchangeable_refill hc.right.behind⟩

end

end Derivations

/-- **A quoted text that is not marked may as well be filled in.** While the end of a quoted text is
looked for, it is marked if it is a template. If it is not, it is filled with itself, and nothing is
looked up. So whichever literals of an expression were quoted and are made templates, the same
questions are asked in the evaluation, and it has the same result or failure. -/
theorem refill_evaluates_alike (mode : Mode) (condition : String) :
    (∀ cs, Lexeme.readMarked mode cs =
      (Lexeme.readQuoted mode cs).map fun l => (l, l.isTemplate)) ∧
    (∀ t ∈ (lex mode condition.toList).tokens, t.lexeme.isQuoted = true →
      t.lexeme.isTemplate = false → Template.fill t.lexeme.text = .ok t.lexeme.text) ∧
    ∀ limit e, Expr.parse mode limit condition = .ok e →
      ∀ chosen, ChoosesQuoted chosen (lex mode condition.toList).tokens →
        (e.refill chosen).value = e.value ∧ (e.refill chosen).evaluate = e.evaluate := by
  refine ⟨Lexeme.readMarked_eq mode, ?_, ?_⟩
  · intro t _ hquoted hmarked
    obtain ⟨s, hs⟩ := Lexeme.isQuoted_iff.mp hquoted
    rw [hs] at hmarked ⊢
    exact Template.fill_of_plain hmarked
  · intro limit e hparse chosen hchosen
    obtain ⟨ts, hlex, d, _, hderives⟩ := parse_eq_ok_iff.mp hparse
    rw [hlex] at hchosen
    have hsame := hderives.interchangeable_refill hchosen
    exact ⟨hsame.value, hsame.judged⟩

/-- A version in a comparison and a text that is no truth value in a chain are filled in. -/
theorem refill_evaluates_alike_chain :
    ∃ e, Expr.parse .everything 50 "'1.10' > '1.9' and 'on'" = .ok e ∧
      ChoosesQuoted (fun n => n == 0 || n == 19)
        (lex .everything "'1.10' > '1.9' and 'on'".toList).tokens ∧
      e.refill (fun n => n == 0 || n == 19) =
        .chain .and (.comparison .greater (.template 0 "1.10") (.literal 9 (.text "1.9") "1.9"))
          [.template 19 "on"] ∧
      (e.refill fun n => n == 0 || n == 19).evaluate = e.evaluate := by
  have hparse : Expr.parse .everything 50 "'1.10' > '1.9' and 'on'" = .ok
      (.chain .and (.comparison .greater (.literal 0 (.text "1.10") "1.10")
        (.literal 9 (.text "1.9") "1.9")) [.literal 19 (.text "on") "on"]) := by rfl
  have hchosen : ChoosesQuoted (fun n => n == 0 || n == 19)
      (lex .everything "'1.10' > '1.9' and 'on'".toList).tokens := by decide +kernel
  exact ⟨_, hparse, hchosen, rfl,
    ((refill_evaluates_alike .everything "'1.10' > '1.9' and 'on'").2.2 50 _ hparse _ hchosen).2⟩

end BuildCondition
