import BuildCondition.Bag
import BuildCondition.Proofs.Composition
import BuildCondition.Proofs.Expr.RoundTrip
import BuildCondition.Proofs.Function
import BuildCondition.Proofs.Spacing

/-!
# Versions in comparisons and in functions

Versions can be compared in two ways, `1.9 < 1.10` and `VersionLessThan('1.9', '1.10')`. A
comparison reads a literal as it is written, whereas a function is given its value. For texts that is
the same. A numeral that is a number reaches the function by way of a double, and what is read is
the text of that: `1.10` is 1.10 in a comparison and 1.1 in a function. So the two ways agree on
operands whose values are the same versions as they themselves (§4), and on no numeral that is not
one of these.
-/

namespace BuildCondition

open BuildCondition.Expr BuildCondition.Text

/-! ## §1  Orders of versions -/

namespace Version

variable {v v' w w' : Version}

theorem compare_eq_eq : v.compare w = .eq ↔
    v.part 0 = w.part 0 ∧ v.part 1 = w.part 1 ∧ v.part 2 = w.part 2 ∧ v.part 3 = w.part 3 := by
  simp only [compare, Ordering.then_eq_eq, Nat.compare_eq_eq, and_assoc]

theorem compare_self (v : Version) : v.compare v = .eq :=
  compare_eq_eq.mpr ⟨rfl, rfl, rfl, rfl⟩

/-- Versions that differ in their texts only have the same order to others. -/
theorem compare_congr (h : v.compare v' = .eq) (h' : w.compare w' = .eq) :
    v.compare w = v'.compare w' := by
  obtain ⟨h0, h1, h2, h3⟩ := compare_eq_eq.mp h
  obtain ⟨h0', h1', h2', h3'⟩ := compare_eq_eq.mp h'
  rw [compare, h0, h1, h2, h3, h0', h1', h2', h3', compare]

end Version

/-! ## §2  Operands -/

/-- The kinds of lexemes that are compared as versions. -/
def Lexeme.IsComparedAsVersion : Lexeme → Prop
  | .numeral _ | .quoted _ => True
  | .reference r => r.sigil = .property
  | _ => False

/-- What a lexeme is as an operand of a comparison, if it is one. -/
def Lexeme.operandIn? (state : BuildState) (l : Lexeme) : Option Operand :=
  match Token.operand? ⟨l, 0⟩ with
  | none => none
  | some e =>
      match e.value.result state with
      | .ok v => some (asOperand e v)
      | .error _ => none

/-- An operand that comparisons read as a version: a numeral, a quoted text or a property. -/
structure VersionOperand (mode : Mode) (state : BuildState) where
  lexeme : Lexeme
  kind : lexeme.IsComparedAsVersion
  alone : tokenize mode lexeme.source =
    .ok [.token ⟨lexeme, 0⟩, .endOfInput lexeme.source.length]
  operand : Operand
  found : lexeme.operandIn? state = some operand
  version : Version
  reads : operand.version? = some version

/-- The value of an operand is the same version as the operand. -/
def VersionOperand.PassesAsVersion {mode : Mode} {state : BuildState}
    (o : VersionOperand mode state) : Prop :=
  ∃ v, o.operand.value.asVersion? = some v ∧ v.compare o.version = .eq

section Operands

variable {mode : Mode} {state : BuildState}

theorem operandIn?_eq_some {l : Lexeme} {o : Operand} (h : l.operandIn? state = some o) :
    ∃ e, Token.operand? ⟨l, 0⟩ = some e ∧ e.value.result state = .ok o.value ∧
      o = asOperand e o.value := by
  unfold Lexeme.operandIn? at h
  split at h
  · cases h
  · rename_i e he
    split at h
    · rename_i v hv
      cases h
      exact ⟨e, he, hv, rfl⟩
    · cases h

/-- A text that is cut into one lexeme, and is written like that, spells it. -/
theorem spells_of_alone {l : Lexeme} {n : Nat}
    (h : lex mode l.source.toList = ⟨[⟨l, 0⟩], .ok n⟩) : l.Spells mode l.source.toList := by
  generalize hsource : l.source.toList = src at h
  have hlex : lexAt mode 0 src = ⟨[⟨l, 0⟩], .ok n⟩ := h
  cases src with
  | nil => cases hlex
  | cons c cs =>
      cases hblank : isBlank c with
      | true =>
          rw [lexAt_blank hblank] at hlex
          have hmem : (⟨l, 0⟩ : Token) ∈ (lexAt mode (0 + 1) cs).tokens := by
            rw [hlex]
            exact List.mem_cons_self
          exact absurd (offset_of_mem_lexAt hmem).1 (Nat.not_succ_le_zero 0)
      | false =>
          cases hread : Lexeme.readLexeme mode c cs with
          | error fault =>
              rw [lexAt_fault hblank hread] at hlex
              cases hlex
          | ok l' =>
              obtain ⟨src, rest, hsplit, hspells, hends⟩ :=
                Lexeme.spells_of_readLexeme hblank hread
              rw [hsplit] at hlex hsource ⊢
              rw [lexAt_lexeme hspells hends] at hlex
              have htoken : (⟨l', 0⟩ : Token) = ⟨l, 0⟩ :=
                (List.cons.inj (congrArg Lexed.tokens hlex)).1
              cases htoken
              -- the lexeme is as long as the text, so that nothing follows it
              have hlength := congrArg List.length hsource
              rw [String.length_toList, List.length_append, hspells.1.length_eq] at hlength
              have hrest : rest = [] := List.eq_nil_of_length_eq_zero (by
                have : l.width = l.source.length := rfl
                omega)
              rw [hrest, List.append_nil]
              exact hspells

theorem VersionOperand.spells (o : VersionOperand mode state) :
    o.lexeme.Spells mode o.lexeme.source.toList :=
  spells_of_alone (@tokenize_eq_ok_iff mode _ [⟨o.lexeme, 0⟩] _ |>.mp o.alone)

/-- An operand is cut from the texts that it stands in. -/
theorem VersionOperand.cutApart (o : VersionOperand mode state) :
    CutApart mode o.lexeme.source.toList [⟨o.lexeme, 0⟩] := by
  intro rest hrest
  refine .lexeme o.spells (hrest.endsBefore ?_)
  rintro s hname
  have hkind := o.kind
  rw [hname] at hkind
  exact hkind

/-- Only a numeral that is a number may be another version by its value. -/
theorem VersionOperand.passesAsVersion_of_text (o : VersionOperand mode state)
    (h : ∀ s, o.lexeme = .numeral s → Value.readNumber? s.toList = none) : o.PassesAsVersion := by
  refine ⟨o.version, ?_, Version.compare_self _⟩
  obtain ⟨e, he, hvalue, hoperand⟩ := operandIn?_eq_some o.found
  have hreads := o.reads
  rw [hoperand] at hreads
  have hkind := o.kind
  -- the value of a literal is its source text, and only literals have any
  have htext : ∀ n s, e = .literal n (.text s) s → o.operand.value.asVersion? = some o.version := by
    rintro n s rfl
    have hvalue : Value.text s = o.operand.value := Except.ok.inj hvalue
    rw [← hvalue] at hreads ⊢
    exact hreads
  cases hl : o.lexeme with
  | numeral s =>
      rw [hl] at he
      refine htext 0 s ?_
      rw [← Option.some.inj he, ofNumeral, h s hl]
  | quoted s =>
      rw [hl] at he
      by_cases hreference : Lexeme.hasReference s.toList = true
      · rw [← Option.some.inj he, ofQuoted, if_pos hreference] at hreads
        exact hreads
      · refine htext 0 s ?_
        rw [← Option.some.inj he, ofQuoted, if_neg hreference]
  | reference r =>
      rw [hl] at he
      rw [← Option.some.inj he] at hreads
      exact hreads
  | word | functionName | connective | not | comparison | leftParen | rightParen | comma =>
      rw [hl] at hkind
      exact hkind.elim

end Operands

/-! ## §3  Conditions -/

/-- The text `a < b`, or with another comparison. -/
def comparisonText (op : Comparison) (a b : String) : String :=
  a ++ " " ++ op.text ++ " " ++ b

/-- The text `VersionLessThan(a, b)`, or with another function. -/
def callText (name a b : String) : String :=
  name ++ "(" ++ a ++ ", " ++ b ++ ")"

section Conditions

variable {mode : Mode} {state : BuildState} {limit : Nat} {place : Location}

/-- What a comparison says of two operands. -/
def comparisonResult (limit : Nat) (place : Location) (op : Comparison)
    (a b : VersionOperand mode state) : Except Failure Bool :=
  (Condition.evaluate mode limit place
    (comparisonText op a.lexeme.source b.lexeme.source)).result state

/-- What a function says of two operands. -/
def callResult (limit : Nat) (place : Location) (name : String)
    (a b : VersionOperand mode state) : Except Failure Bool :=
  (Condition.evaluate mode limit place (callText name a.lexeme.source b.lexeme.source)).result state

theorem result_of_sameAnywhere {α : Type} {a b : Asking α} {x : α} (h : SameAnywhere a b)
    (hb : b.result state = .ok x) : a.result state = .ok x := by
  have hrun : (a.mapFailure Failure.anywhere).result state =
      (b.mapFailure Failure.anywhere).result state := congrArg (Asking.result state) h
  rw [Asking.result, Asking.run_mapFailure, Asking.result, Asking.run_mapFailure] at hrun
  rw [Asking.result] at hb
  rw [hb] at hrun
  rw [Asking.result]
  generalize (a.run state).2 = r at hrun
  cases r with
  | ok y =>
      cases hrun
      rfl
  | error f => cases hrun

theorem result_evaluate_of_parse {condition : String} {e : Expr}
    (h : Expr.parse mode limit condition = .ok e) :
    (Condition.evaluate mode limit place condition).result state =
      (e.evaluate.result state).mapError fun f => f.withSource condition place := by
  rw [evaluate_of_parse h, Asking.result, Asking.run_mapFailure]
  rfl

/-- An expression has the value of an operand and is read as the same version. -/
def VersionOperand.IsMeantBy (o : VersionOperand mode state) (e : Expr) : Prop :=
  e.value.result state = .ok o.operand.value ∧
    (asOperand e o.operand.value).version? = some o.version

theorem VersionOperand.IsMeantBy.relocate {o : VersionOperand mode state} {e : Expr}
    (h : o.IsMeantBy e) (f : Nat → Nat) : o.IsMeantBy (e.relocate f) := by
  refine ⟨result_of_sameAnywhere (value_relocate f e) h.1, ?_⟩
  have hwritten : (asOperand (e.relocate f) o.operand.value).version? =
      (asOperand e o.operand.value).version? := by
    rw [Operand.version?, Operand.version?, asOperand, asOperand, written?_relocate]
  rw [hwritten]
  exact h.2

theorem VersionOperand.exists_isMeantBy (o : VersionOperand mode state) :
    ∃ e, Derives .primary 0 [⟨o.lexeme, 0⟩] e ∧ o.IsMeantBy e := by
  obtain ⟨e, he, hvalue, hoperand⟩ := operandIn?_eq_some o.found
  refine ⟨e, .token he, hvalue, ?_⟩
  rw [← hoperand]
  exact o.reads

/-- Two texts with a comparison between them make a comparison if each of them is an operand. -/
theorem parse_comparison {a b : String} {ts us : List Token} {d d' : Nat} {l r : Expr}
    (op : Comparison) (ha : CutApart mode a.toList ts) (hb : CutApart mode b.toList us)
    (hl : Derives .primary d ts l) (hr : Derives .primary d' us r) (hlimit : max d d' < limit) :
    Expr.parse mode limit (comparisonText op a b) =
      .ok (.comparison op l (r.relocate (a.length + (op.text.length + 2) + ·))) := by
  have hsep : Separates mode (' ' :: (op.text.toList ++ [' '])) (.comparison op) 1 :=
    separates_comparison op
  have hcut := hsep.cutApart ha hb [] closes_nil
  have htext : (comparisonText op a b).toList =
      a.toList ++ (' ' :: (op.text.toList ++ [' ']) ++ b.toList) := by
    simp [comparisonText]
  rw [← htext] at hcut
  have hr' := hr.relocate fun n => a.toList.length + ((' ' :: (op.text.toList ++ [' '])).length + n)
  have hoffset : (fun n => a.toList.length + ((' ' :: (op.text.toList ++ [' '])).length + n)) =
      (a.length + (op.text.length + 2) + ·) := by
    funext n
    simp only [List.length_cons, List.length_append, List.length_nil, String.length_toList]
    omega
  rw [← hoffset]
  exact parse_of_cut hcut hlimit (hl.compared hr')

theorem parse_comparisonText (op : Comparison) (a b : VersionOperand mode state)
    (hlimit : 0 < limit) :
    ∃ l r, Expr.parse mode limit (comparisonText op a.lexeme.source b.lexeme.source) =
      .ok (.comparison op l r) ∧ a.IsMeantBy l ∧ b.IsMeantBy r := by
  obtain ⟨l, hl, hmeant⟩ := a.exists_isMeantBy
  obtain ⟨r, hr, hmeant'⟩ := b.exists_isMeantBy
  exact ⟨_, _, parse_comparison op a.cutApart b.cutApart hl hr hlimit, hmeant, hmeant'.relocate _⟩

/-- A relational comparison accepts the order of the two versions or not. -/
theorem comparisonResult_eq {op : Comparison} (hop : op.isEquality = false)
    (a b : VersionOperand mode state) (hlimit : 0 < limit) :
    comparisonResult limit place op a b = .ok (op.accepts (a.version.compare b.version)) := by
  obtain ⟨l, r, hparse, ⟨hvalue, hversion⟩, hvalue', hversion'⟩ :=
    parse_comparisonText op a b hlimit
  have hcompare : Operand.compare op (asOperand l a.operand.value)
      (asOperand r b.operand.value) = .ok (op.accepts (a.version.compare b.version)) := by
    rw [Operand.compare, hop, Operand.order, Operand.versionOrder?, hversion, hversion']
    rfl
  rw [comparisonResult, result_evaluate_of_parse hparse,
    result_evaluate_comparison op hvalue hvalue', hcompare]
  rfl

theorem spells_functionName {c : Char} {after : List Char} (hmark : c ∉ Lexeme.marks)
    (hnumeral : Lexeme.startsNumeral c = false) (hword : startsWord c = true)
    (hchars : (c :: after).all isWordChar = true)
    (hop : Lexeme.connectiveOf? (c :: after) = none) :
    Lexeme.Spells mode (c :: after) (.functionName (String.ofList (c :: after))) := by
  have hall := List.all_eq_true.mp hchars
  refine ⟨⟨String.toList_ofList.symm, fun d hd => Lexeme.not_mem_marks_of_isWordChar (hall d hd)⟩,
    c, after, rfl, ?_, fun rest hrest => ?_⟩
  · cases hblank : isBlank c with
    | false => rfl
    | true =>
        have hname := (not_in_names_of_isBlank hblank).2
        rw [hall c List.mem_cons_self] at hname
        cases hname
  · rw [Lexeme.readLexeme_of_not_mark hmark, if_neg (by rw [hnumeral]; decide), if_pos hword,
      Lexeme.readWord, ← List.cons_append, takeWhile_append_stops hall hrest.1,
      dropWhile_append_stops hall hrest.1]
    simp only [hop, if_pos hrest.2]

theorem spells_versionFunction {name : String} {op : Comparison}
    (h : (name, op) ∈ FunctionTable.versionFunctions) :
    Lexeme.Spells mode name.toList (.functionName name) := by
  have hnames : ∀ entry ∈ FunctionTable.versionFunctions, ∃ after : List Char,
      entry.1.toList = 'V' :: after ∧ ('V' :: after).all isWordChar = true ∧
        Lexeme.connectiveOf? ('V' :: after) = none := by
    simp only [FunctionTable.versionFunctions, List.forall_mem_cons]
    refine ⟨⟨_, rfl, ?_⟩, ⟨_, rfl, ?_⟩, ⟨_, rfl, ?_⟩, ⟨_, rfl, ?_⟩, ⟨_, rfl, ?_⟩, ⟨_, rfl, ?_⟩,
      List.forall_mem_nil _⟩ <;> decide +kernel
  obtain ⟨after, hname, hchars, hop⟩ := hnames (name, op) h
  have hspells : Lexeme.Spells mode ('V' :: after) _ :=
    spells_functionName (by decide) (by decide) (by decide) hchars hop
  rw [← hname, String.ofList_toList] at hspells
  exact hspells

/-- A name with two operands behind it in parentheses makes a call. -/
theorem parse_callText {name : String} (hname : Lexeme.Spells mode name.toList (.functionName name))
    (a b : VersionOperand mode state) (hlimit : 1 < limit) :
    ∃ l r, Expr.parse mode limit (callText name a.lexeme.source b.lexeme.source) =
      .ok (.call 0 name [l, r]) ∧ a.IsMeantBy l ∧ b.IsMeantBy r := by
  obtain ⟨l, hl, hmeant⟩ := a.exists_isMeantBy
  obtain ⟨r, hr, hmeant'⟩ := b.exists_isMeantBy
  have hsep : Separates mode [',', ' '] .comma 0 := separates_comma
  have hargs := hsep.cutApart a.cutApart b.cutApart
  have hcut := CutBefore.append (.lexeme hname (endsBefore_leftParen name _))
    (.append (.lexeme Lexeme.spells_leftParen trivial)
      (.append (hargs _ (closes_rightParen [])) (.lexeme Lexeme.spells_rightParen trivial)))
  simp only [List.map_append, List.map_map, Token.relocate_comp] at hcut
  have htext : (callText name a.lexeme.source b.lexeme.source).toList =
      name.toList ++ (['('] ++ (a.lexeme.source.toList ++ ([',', ' '] ++
        b.lexeme.source.toList) ++ [')'])) := by
    simp [callText]
  rw [← htext] at hcut
  have hr' := hr.relocate fun n => a.lexeme.source.toList.length + ([',', ' '].length + n)
  have hlist : DerivesList .comma .expr 0 _ l [_] :=
    .more (n := a.lexeme.source.toList.length + 0) hl.to_operand.to_expr
      (.last hr'.to_operand.to_expr)
  have hlist' := hlist.relocate fun n => name.toList.length + (1 + n)
  exact ⟨_, _, parse_of_cut hcut hlimit (.to_expr (.to_operand (.call hlist'))),
    hmeant.relocate _, (hmeant'.relocate _).relocate _⟩

/-- A call has a value if the values of its operands are versions, and then it accepts their order
or not. -/
theorem callResult_eq_ok_iff {name : String} {op : Comparison}
    (hbuiltin : ∀ vs, state (.call name vs) = FunctionTable.builtin.call name vs)
    (h : (name, op) ∈ FunctionTable.versionFunctions) (a b : VersionOperand mode state)
    (hlimit : 1 < limit) {x : Bool} :
    callResult limit place name a b = .ok x ↔
      ∃ v w, a.operand.value.asVersion? = some v ∧ b.operand.value.asVersion? = some w ∧
        x = op.accepts (v.compare w) := by
  obtain ⟨l, r, hparse, ⟨hvalue, _⟩, hvalue', _⟩ :=
    parse_callText (spells_versionFunction h) a b hlimit
  have hvalues : (values [l, r]).result state = .ok [a.operand.value, b.operand.value] := by
    rw [values, Asking.result_bind, hvalue]
    show (((values [r]).bind _).result state) = _
    rw [values, Asking.result_bind, Asking.result_bind, hvalue']
    rfl
  have hresult : (Expr.call 0 name [l, r]).evaluate.result state =
      ((FunctionTable.builtin.call name [a.operand.value, b.operand.value]).mapError
        (·.placedAt 1)).bind fun v => (truthOf 0 v).result state := by
    rw [evaluate, value, Asking.result_bind, Asking.result_bind, hvalues, ← hbuiltin]
    rfl
  rw [callResult, result_evaluate_of_parse hparse, mapError_eq_ok, hresult, bind_eq_ok]
  simp only [mapError_eq_ok, FunctionTable.call_builtin_eq_ok_iff h]
  constructor
  · rintro ⟨_, ⟨v, w, hv, hw, rfl⟩, htruth⟩
    exact ⟨v, w, hv, hw, (Except.ok.inj htruth).symm⟩
  · rintro ⟨v, w, hv, hw, rfl⟩
    exact ⟨_, ⟨v, w, hv, hw, rfl⟩, rfl⟩

end Conditions

/-! ## §4  Agreement -/

/-- The functions that compare versions are the ones that are always there. -/
def BuildState.HasVersionFunctions (state : BuildState) : Prop :=
  ∀ name op, (name, op) ∈ FunctionTable.versionFunctions →
    ∀ vs, state (.call name vs) = FunctionTable.builtin.call name vs

section Agreement

variable {mode : Mode} {state : BuildState} {limit : Nat} {place : Location}

/-- The functions say of two operands what the comparisons say. There is no comparison of versions
for equality, but two versions are equal if they are in order both ways. -/
def FunctionsAgree (limit : Nat) (place : Location) (a b : VersionOperand mode state) : Prop :=
  (∀ name op, (name, op) ∈ FunctionTable.versionFunctions → op.isEquality = false →
      ∃ r, callResult limit place name a b = .ok r ∧ comparisonResult limit place op a b = .ok r) ∧
    ∃ r, callResult limit place "VersionEquals" a b = .ok r ∧
      callResult limit place "VersionNotEquals" a b = .ok (!r) ∧
      (r = true ↔ comparisonResult limit place .lessOrEqual a b = .ok true ∧
        comparisonResult limit place .greaterOrEqual a b = .ok true)

/-- Operands that are the same versions by their values are compared in the same way. -/
theorem functionsAgree_of_passesAsVersion (hstate : state.HasVersionFunctions) (hlimit : 1 < limit)
    {a b : VersionOperand mode state} (ha : a.PassesAsVersion) (hb : b.PassesAsVersion) :
    FunctionsAgree limit place a b := by
  obtain ⟨v, hv, hav⟩ := ha
  obtain ⟨w, hw, hbw⟩ := hb
  have hcall : ∀ {name op}, (name, op) ∈ FunctionTable.versionFunctions →
      callResult limit place name a b = .ok (op.accepts (a.version.compare b.version)) := by
    intro name op h
    refine (callResult_eq_ok_iff (hstate name op h) h a b hlimit).mpr ⟨v, w, hv, hw, ?_⟩
    rw [Version.compare_congr hav hbw]
  have hcomparison : ∀ {op : Comparison}, op.isEquality = false →
      comparisonResult limit place op a b = .ok (op.accepts (a.version.compare b.version)) :=
    fun hop => comparisonResult_eq hop a b (Nat.lt_of_succ_lt hlimit)
  have hequal : ("VersionEquals", Comparison.equal) ∈ FunctionTable.versionFunctions := by decide
  have hnotEqual : ("VersionNotEquals", Comparison.notEqual) ∈ FunctionTable.versionFunctions := by
    decide
  refine ⟨fun name op h hop => ⟨_, hcall h, hcomparison hop⟩, _, hcall hequal, hcall hnotEqual, ?_⟩
  rw [hcomparison (by rfl), hcomparison (by rfl), Except.ok.injEq, Except.ok.injEq]
  cases a.version.compare b.version <;> decide

/-- A numeral's text in quotes is the same version, and that by its value, too. -/
def VersionOperand.inQuotes {s : String} (hmarks : ∀ c ∈ s.toList, c ∉ Lexeme.marks) {v : Version}
    (hv : Version.read? s.toList = some v) : VersionOperand mode state where
  lexeme := .quoted s
  kind := trivial
  alone := by
    have hcut : CutBefore mode [] (Lexeme.quoted s).source.toList [⟨.quoted s, 0⟩] :=
      .lexeme (Lexeme.spells_quoted hmarks) trivial
    have hlex := hcut.lex_eq
    rw [String.length_toList] at hlex
    exact (@tokenize_eq_ok_iff mode _ [⟨.quoted s, 0⟩] _).mpr hlex
  operand := ⟨0, .text s, some s⟩
  found := by
    have hliteral : Token.operand? ⟨.quoted s, 0⟩ = some (.literal 0 (.text s) s) := by
      show some (ofQuoted 0 s) = _
      rw [ofQuoted, if_neg (by rw [Lexeme.hasReference_of_plain hmarks]; decide)]
    rw [Lexeme.operandIn?, hliteral]
    rfl
  version := v
  reads := hv

/-- An operand that is another version by its value is told apart from its own text. -/
theorem exists_not_functionsAgree (hstate : state.HasVersionFunctions) (hlimit : 1 < limit)
    {a : VersionOperand mode state} (ha : ¬a.PassesAsVersion) :
    ∃ b : VersionOperand mode state, b.PassesAsVersion ∧ ¬FunctionsAgree limit place a b := by
  obtain ⟨s, hs, x, hx⟩ : ∃ s, a.lexeme = .numeral s ∧ ∃ x,
      Value.readNumber? s.toList = some x := by
    by_contra hnone
    refine ha (a.passesAsVersion_of_text fun s hs => ?_)
    cases hx : Value.readNumber? s.toList with
    | none => rfl
    | some x => exact absurd ⟨s, hs, x, hx⟩ hnone
  have hmarks : ∀ c ∈ s.toList, c ∉ Lexeme.marks := by
    have hspelled := a.spells.1
    rw [hs] at hspelled
    exact hspelled.2
  have hread : Version.read? s.toList = some a.version := by
    obtain ⟨e, he, _, hoperand⟩ := operandIn?_eq_some a.found
    have hreads := a.reads
    rw [hs] at he
    rw [hoperand, ← Option.some.inj he, ofNumeral, hx] at hreads
    exact hreads
  refine ⟨.inQuotes hmarks hread, ⟨a.version, hread, Version.compare_self _⟩, ?_⟩
  rintro ⟨_, r, hequal, _, hr⟩
  have hself : ∀ {op : Comparison}, op.isEquality = false → op.accepts .eq = true →
      comparisonResult limit place op a (.inQuotes hmarks hread) = .ok true := by
    intro op hop heq
    rw [comparisonResult_eq hop _ _ (Nat.lt_of_succ_lt hlimit)]
    show Except.ok (op.accepts (a.version.compare a.version)) = _
    rw [Version.compare_self, heq]
  obtain rfl := hr.mpr ⟨hself (by rfl) (by rfl), hself (by rfl) (by rfl)⟩
  -- the values would have to be in order, which makes the one the version that is written
  have hmem : ("VersionEquals", Comparison.equal) ∈ FunctionTable.versionFunctions := by decide
  obtain ⟨v, w, hv, hw, haccepts⟩ :=
    (callResult_eq_ok_iff (hstate _ _ hmem) hmem _ _ hlimit).mp hequal
  have hw' : some a.version = some w := hread.symm.trans hw
  cases hw'
  exact ha ⟨v, hv, eq_of_beq haccepts.symm⟩

/-- **The version functions agree with the comparisons on operands whose values are the same versions
as they are themselves.** These are all operands but some of the numerals that are numbers, namely
those of which the number has the text of another version or of none. On each of these there is an
operand with which they do not agree. -/
theorem version_functions_agree (hstate : state.HasVersionFunctions) (hlimit : 1 < limit)
    (place : Location) :
    (∀ a b : VersionOperand mode state, a.PassesAsVersion → b.PassesAsVersion →
      FunctionsAgree limit place a b) ∧
    (∀ a : VersionOperand mode state,
      (∀ s, a.lexeme = .numeral s → Value.readNumber? s.toList = none) → a.PassesAsVersion) ∧
    ∀ a : VersionOperand mode state, ¬a.PassesAsVersion →
      ∃ b : VersionOperand mode state, b.PassesAsVersion ∧ ¬FunctionsAgree limit place a b :=
  ⟨fun _ _ => functionsAgree_of_passesAsVersion hstate hlimit,
    fun a => a.passesAsVersion_of_text, fun _ => exists_not_functionsAgree hstate hlimit⟩

end Agreement

/-- A quoted text and a numeral with two points are compared in the same way. -/
theorem version_functions_agree_dotted :
    Bag.empty.state.HasVersionFunctions ∧ 1 < 50 ∧
      ∃ a b : VersionOperand .everything Bag.empty.state,
        a.lexeme = .quoted "1.9" ∧ b.lexeme = .numeral "1.10.0" ∧
          FunctionsAgree 50 .unknown a b := by
  have hstate : Bag.empty.state.HasVersionFunctions := fun _ _ _ _ => rfl
  have hread : Version.read? "1.9".toList = some ⟨[1, 9], by simp, by simp, by decide⟩ := by rfl
  have hall : "1.9".toList.all (fun c => decide (c ∉ Lexeme.marks)) = true := by decide
  have hmarks : ∀ c ∈ "1.9".toList, c ∉ Lexeme.marks :=
    fun c hc => of_decide_eq_true (List.all_eq_true.mp hall c hc)
  obtain ⟨hagree, htext, _⟩ := version_functions_agree hstate (by decide : 1 < 50) .unknown
  refine ⟨hstate, by decide, .inQuotes hmarks hread,
    ⟨.numeral "1.10.0", trivial, by rfl, ⟨0, .text "1.10.0", some "1.10.0"⟩, by rfl,
      ⟨[1, 10, 0], by simp, by simp, by decide⟩, by rfl⟩, rfl, rfl,
    hagree _ _ (htext _ ?_) (htext _ ?_)⟩
  · intro s hs
    cases hs
  · intro s hs
    cases hs
    rfl

/-- Without quotes, `1.10` is a later version than `1.9` in a comparison and an earlier one in a
function. -/
theorem numerals_compared_otherwise :
    (Version.read? "1.9".toList).isSome = true ∧ (Version.read? "1.10".toList).isSome = true ∧
      (Condition.evaluate .everything 50 .unknown "1.9 < 1.10").result Bag.empty.state = .ok true ∧
      (Condition.evaluate .everything 50 .unknown "VersionLessThan(1.9, 1.10)").result
        Bag.empty.state = .ok false := by
  have hcall : ((Condition.evaluate .everything 50 .unknown "VersionLessThan(1.9, 1.10)").result
      Bag.empty.state).toOption = some false := by decide +kernel
  exact ⟨by rfl, by rfl, by rfl, toOption_eq_some.mp hcall⟩

end BuildCondition
