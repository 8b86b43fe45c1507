import BuildCondition.Expr.Printer
import BuildCondition.Proofs.Grammar.Acceptance

/-!
# Printed conditions

An expression is printed so that it can be put together again. What is printed is an operand or
stands in parentheses, so it is read on its own wherever a blank, a comma or a closing parenthesis
follows (§1). This is kept by everything that the printer does (§2), and it holds of every operand
whose token could be read (§3). The printed form has other offsets and may have other lexemes, for
bare words are printed in quotes; the expression is the same apart from its offsets.
-/

namespace BuildCondition.Expr

open BuildCondition.Text

/-! ## §1  Texts that are read on their own -/

/-- What may follow a printed expression. -/
def Closes (rest : List Char) : Prop :=
  (∀ c ∈ rest.head?, c ∈ [')', ',', ' ']) ∧ (trimStart rest).head? ≠ some '('

theorem closes_nil : Closes [] := by
  constructor
  · intro c hc
    cases hc
  · simp [trimStart]

theorem closes_rightParen (rest : List Char) : Closes (')' :: rest) := by
  constructor
  · intro c hc
    cases hc
    decide
  · rw [trimStart, List.dropWhile_cons_of_neg (by decide)]
    simp

theorem Closes.stops {rest : List Char} (h : Closes rest) {p : Char → Bool}
    (hp : [')', ',', ' '].all (fun c => !p c) = true) : Stops p rest := by
  intro c hc
  have hnot := List.all_eq_true.mp hp c (h.1 c hc)
  simpa using hnot

theorem Closes.endsBefore {rest : List Char} (h : Closes rest) {l : Lexeme}
    (hname : ∀ s, l ≠ .functionName s) : l.EndsBefore rest := by
  have hequals : rest.head? ≠ some '=' := fun hc => by
    have := h.1 '=' hc
    simp at this
  cases l with
  | numeral => exact h.stops (by decide)
  | word => exact ⟨h.stops (by decide), h.2⟩
  | functionName s => exact absurd rfl (hname s)
  | connective => exact h.stops (by decide)
  | not => exact hequals
  | comparison op =>
      cases op with
      | less | greater => exact hequals
      | equal | notEqual | lessOrEqual | greaterOrEqual => trivial
  | quoted | reference | leftParen | rightParen | comma => trivial

/-- The text is cut into the same tokens before anything that may follow. -/
def CutApart (mode : Mode) (text : List Char) (ts : List Token) : Prop :=
  ∀ rest, Closes rest → CutBefore mode rest text ts

/-- The tokens of the text make an expression that is `e` apart from its offsets. -/
def ReadsBack (mode : Mode) (c : Category) (text : List Char) (e : Expr) : Prop :=
  ∃ d ts e', CutApart mode text ts ∧ Derives c d ts e' ∧ e'.unplaced = e.unplaced

/-- A text that is read as `e`, and may stand behind `!`. -/
structure Printed (mode : Mode) (text : List Char) (e : Expr) : Prop where
  starts : ∃ c after, text = c :: after ∧ c ≠ '='
  reads : ReadsBack mode .primary text e

section Printing

variable {mode : Mode} {text : List Char} {e : Expr}

theorem Printed.head?_append_ne (h : Printed mode text e) (rest : List Char) :
    (text ++ rest).head? ≠ some '=' := by
  obtain ⟨c, after, rfl, hc⟩ := h.starts
  simpa using hc

/-! ## §2  What the printer does -/

theorem Printed.lexeme {l : Lexeme} {e' : Expr} (h : Lexeme.Spells mode text l)
    (hstart : text.head? ≠ some '=') (hl : (⟨l, 0⟩ : Token).operand? = some e')
    (he : e'.unplaced = e.unplaced) : Printed mode text e := by
  have hname : ∀ s, l ≠ .functionName s := by
    rintro s rfl
    cases hl
  obtain ⟨_, c, after, hsrc, _⟩ := id h
  refine ⟨⟨c, after, hsrc, ?_⟩, 0, _, e', fun rest hrest => .lexeme h (hrest.endsBefore hname),
    .token hl, he⟩
  rintro rfl
  exact hstart (by rw [hsrc]; rfl)

/-- What stands in parentheses is read back as what it is on its own. -/
theorem Printed.group (h : ReadsBack mode .expr text e) :
    Printed mode ('(' :: (text ++ [')'])) e := by
  obtain ⟨d, ts, e', hcut, he', hsame⟩ := h
  exact ⟨⟨'(', _, rfl, by decide⟩, d + 1, _, _,
    fun rest _ => (hcut _ (closes_rightParen rest)).group, .group (he'.relocate (1 + ·)),
    (unplaced_relocate (1 + ·) e').trans hsame⟩

theorem ReadsBack.not (h : Printed mode text e) (n : Nat) :
    ReadsBack mode .expr ('!' :: text) (.not n e) := by
  obtain ⟨d, ts, e', hcut, he', hsame⟩ := h.reads
  have hall : ∀ rest, Closes rest → CutBefore mode rest (['!'] ++ text)
      ([⟨.not, 0⟩] ++ ts.map (Token.relocate (1 + ·))) :=
    fun rest hrest => .append (.lexeme Lexeme.spells_not (h.head?_append_ne rest)) (hcut rest hrest)
  refine ⟨d + 1, _, _, hall, .to_expr (.negation (he'.relocate (1 + ·)).to_operand), ?_⟩
  rw [← unplaced_relocate (1 + ·)] at hsame
  exact congrArg (Expr.not 0) hsame

/-- A separator that is cut into one lexeme, `k` characters behind its start. -/
structure Separates (mode : Mode) (sep : List Char) (l : Lexeme) (k : Nat) : Prop where
  closes : ∀ rest, Closes (sep ++ rest)
  cut : ∀ rest, CutBefore mode rest sep [⟨l, k⟩]

theorem separates_of_blanks {c : Char} {after : List Char} {l : Lexeme}
    (h : Lexeme.Spells mode (c :: after) l) (hends : ∀ rest, l.EndsBefore (' ' :: rest))
    (hblank : isBlank c = false) (hparen : c ≠ '(') :
    Separates mode (' ' :: c :: (after ++ [' '])) l 1 := by
  constructor
  · intro rest
    constructor
    · intro d hd
      cases hd
      decide
    · rw [List.cons_append, List.cons_append, trimStart, List.dropWhile_cons_of_pos (by decide),
        List.dropWhile_cons_of_neg (by rw [hblank]; decide)]
      simpa using hparen
  · intro rest
    exact .spaced h (hends rest)

theorem separates_comparison (op : Comparison) :
    Separates mode (' ' :: (op.text.toList ++ [' '])) (.comparison op) 1 := by
  have h : Lexeme.Spells mode op.text.toList (.comparison op) := Lexeme.spells_comparison op
  cases op with
  | less | greater =>
      exact separates_of_blanks h (by simp [Lexeme.EndsBefore]) (by decide) (by decide)
  | equal | notEqual | lessOrEqual | greaterOrEqual =>
      exact separates_of_blanks h (fun _ => trivial) (by decide) (by decide)

theorem separates_connective (op : Connective) :
    Separates mode (' ' :: (op.text.toList ++ [' '])) (.connective op) 1 := by
  have h : Lexeme.Spells mode op.text.toList (.connective op) := Lexeme.spells_connective op
  cases op <;> exact separates_of_blanks h (fun _ => stops_cons (by decide)) (by decide) (by decide)

theorem separates_comma : Separates mode [',', ' '] .comma 0 := by
  constructor
  · intro rest
    constructor
    · intro c hc
      cases hc
      decide
    · rw [List.cons_append, trimStart, List.dropWhile_cons_of_neg (by decide)]
      simp
  · intro rest
    exact .append (.lexeme Lexeme.spells_comma trivial) (.blank (by decide))

/-- What stands on both sides of a separator is read as it is on its own. -/
theorem Separates.cutApart {sep left right : List Char} {l : Lexeme} {k : Nat}
    {ls rs : List Token} (h : Separates mode sep l k) (hl : CutApart mode left ls)
    (hr : CutApart mode right rs) :
    CutApart mode (left ++ (sep ++ right)) (ls ++ ⟨l, left.length + k⟩ ::
      rs.map (Token.relocate fun n => left.length + (sep.length + n))) := by
  intro rest hrest
  have hleft : CutBefore mode (sep ++ right ++ rest) left ls :=
    hl _ (by rw [List.append_assoc]; exact h.closes (right ++ rest))
  have hcut := hleft.append ((h.cut (right ++ rest)).append (hr rest hrest))
  rw [List.map_append, List.map_map, Token.relocate_comp] at hcut
  exact hcut

theorem ReadsBack.comparison {left right : List Char} {l r : Expr} (hl : Printed mode left l)
    (op : Comparison) (hr : Printed mode right r) :
    ReadsBack mode .expr (left ++ (' ' :: (op.text.toList ++ [' ']) ++ right))
      (.comparison op l r) := by
  obtain ⟨d, ls, l', hleft, hl', hlsame⟩ := hl.reads
  obtain ⟨d', rs, r', hright, hr', hrsame⟩ := hr.reads
  have hr' := hr'.relocate fun n => left.length + ((' ' :: (op.text.toList ++ [' '])).length + n)
  refine ⟨_, _, _, (separates_comparison op).cutApart hleft hright, hl'.compared hr', ?_⟩
  show Expr.comparison op l'.unplaced (relocate _ r').unplaced = _
  rw [unplaced_relocate, hlsame, hrsame]
  rfl

/-- A list is read back item by item. -/
theorem readsBack_list {sep : List Char} {l : Lexeme} {k : Nat} {c : Category}
    (hsep : Separates mode sep l k) (hc : ∀ {d ts e}, Derives .primary d ts e → Derives c d ts e)
    (others : List Expr) : ∀ first, (∀ e ∈ first :: others, Printed mode (render e).toList e) →
    ∃ d ts first' others',
      CutApart mode ((render first).toList ++ others.flatMap fun e => sep ++ (render e).toList) ts ∧
      DerivesList l c d ts first' others' ∧ first'.unplaced = first.unplaced ∧
      others'.map unplaced = others.map unplaced := by
  -- on the others for every first item, since the second one is the first of the rest
  induction others with
  | nil =>
      intro first h
      obtain ⟨d, ts, e', hcut, he', hsame⟩ := (h first List.mem_cons_self).reads
      refine ⟨d, ts, e', [], ?_, .last (hc he'), hsame, rfl⟩
      rw [List.flatMap_nil, List.append_nil]
      exact hcut
  | cons second others ih =>
      intro first h
      obtain ⟨d, ts, e', hcut, he', hsame⟩ := (h first List.mem_cons_self).reads
      obtain ⟨d', us, second', others', hcuts, hlist, hsecond, hothers⟩ :=
        ih second fun e he => h e (List.mem_cons_of_mem first he)
      have hlist' := hlist.relocate fun n => (render first).toList.length + (sep.length + n)
      have hall := hsep.cutApart hcut hcuts
      rw [← List.append_assoc sep] at hall
      refine ⟨_, _, _, _, hall, .more (hc he') hlist', hsame, ?_⟩
      rw [List.map_cons, List.map_cons, unplaced_relocate, map_unplaced_relocate, hsecond, hothers]

theorem toList_renderOthers (sep shown : String) (es : List Expr) :
    (renderOthers sep shown es).toList =
      shown.toList ++ es.flatMap fun e => sep.toList ++ (render e).toList := by
  induction es generalizing shown with
  | nil => simp [renderOthers]
  | cons e es ih =>
      rw [renderOthers, ih, String.toList_append, String.toList_append, List.flatMap_cons,
        List.append_assoc, List.append_assoc, List.append_assoc]

theorem ReadsBack.chain {first second : Expr} {others : List Expr} (op : Connective)
    (h : ∀ e ∈ first :: second :: others, Printed mode (render e).toList e) :
    ReadsBack mode .expr ((render first).toList ++ (second :: others).flatMap fun e =>
        ' ' :: (op.text.toList ++ [' ']) ++ (render e).toList)
      (.chain op first (second :: others)) := by
  obtain ⟨d, ts, first', others', hcut, hlist, hfirst, hothers⟩ :=
    readsBack_list (separates_connective op) Derives.to_joined (second :: others) first h
  refine ⟨d, ts, _, hcut, .chain hlist, ?_⟩
  rw [unplaced_joined, hfirst, hothers, ← unplaced_joined]
  rfl

theorem endsBefore_leftParen (name : String) (rest : List Char) :
    (Lexeme.functionName name).EndsBefore ('(' :: rest) := by
  refine ⟨stops_cons (by decide), ?_⟩
  rw [trimStart, List.dropWhile_cons_of_neg (by decide)]
  rfl

theorem printed_joined {first : Expr} {others : List Expr} (op : Connective)
    (h : ∀ e ∈ first :: others, Printed mode (render e).toList e) :
    Printed mode (render (joined op first others)).toList (joined op first others) := by
  cases others with
  | nil => exact h first List.mem_cons_self
  | cons second others =>
      have := Printed.group (ReadsBack.chain op h)
      simpa [joined, render, toList_renderOthers] using this

section Calls

variable {name : String} {src : List Char} (hname : Lexeme.Spells mode src (.functionName name))

include hname

theorem starts_name (rest : List Char) : ∃ c after, src ++ rest = c :: after ∧ c ≠ '=' := by
  obtain ⟨⟨_, hmarks⟩, c, after, rfl, _⟩ := hname
  refine ⟨c, after ++ rest, rfl, ?_⟩
  rintro rfl
  exact hmarks '=' List.mem_cons_self (by decide)

theorem Printed.emptyCall (n : Nat) : Printed mode (src ++ ['(', ')']) (.call n name []) := by
  have hall : ∀ rest, CutBefore mode rest (src ++ (['('] ++ [')'])) _ := fun rest =>
    .append (.lexeme hname (endsBefore_leftParen name _))
      (.append (.lexeme Lexeme.spells_leftParen trivial) (.lexeme Lexeme.spells_rightParen trivial))
  exact ⟨starts_name hname _, 0, _, .call 0 name [], fun rest _ => hall rest, .emptyCall, rfl⟩

/-- A call is read back if its arguments are. -/
theorem Printed.call {first : Expr} {others : List Expr} (n : Nat)
    (h : ∀ e ∈ first :: others, Printed mode (render e).toList e) :
    Printed mode (src ++ '(' :: (((render first).toList ++
        others.flatMap fun e => [',', ' '] ++ (render e).toList) ++ [')']))
      (.call n name (first :: others)) := by
  obtain ⟨d, ts, first', others', hcut, hlist, hfirst, hothers⟩ :=
    readsBack_list separates_comma (fun he => .to_expr (Derives.to_operand he)) others first h
  generalize (render first).toList ++ (others.flatMap fun e => [',', ' '] ++ (render e).toList) =
    args at *
  have hall : ∀ rest, CutBefore mode rest (src ++ (['('] ++ (args ++ [')']))) _ := fun rest =>
    .append (.lexeme hname (endsBefore_leftParen name _))
      (.append (.lexeme Lexeme.spells_leftParen trivial)
        (.append (hcut _ (closes_rightParen rest)) (.lexeme Lexeme.spells_rightParen trivial)))
  simp only [List.map_append, List.map_map, Token.relocate_comp] at hall
  have hlist' := hlist.relocate fun n => src.length + (1 + n)
  refine ⟨starts_name hname _, d + 1, _, _, fun rest _ => hall rest, .call hlist', ?_⟩
  rw [unplaced_call, unplaced_call, List.map_cons, List.map_cons, unplaced_relocate,
    map_unplaced_relocate, hfirst, hothers]

end Calls

/-! ## §3  What has been read -/

/-- A lexeme that can be read. -/
def Readable (mode : Mode) (l : Lexeme) : Prop :=
  ∃ src, Lexeme.Spells mode src l

theorem render_ofQuoted (n : Nat) (s : String) : render (ofQuoted n s) = inQuotes s := by
  unfold ofQuoted
  split <;> rfl

theorem printed_quoted {s : String} (h : Readable mode (.quoted s)) (n : Nat) :
    Printed mode (render (ofQuoted n s)).toList (ofQuoted n s) := by
  obtain ⟨src, hsrc⟩ := h
  have hsource : (inQuotes s).toList = src := by
    rw [show src = _ from hsrc.1]
    simp [inQuotes, Lexeme.source, Lexeme.isQuoted, Lexeme.text]
  rw [render_ofQuoted, hsource]
  refine .lexeme hsrc ?_ rfl ?_
  · simp [inQuotes, ← hsource]
  · rw [← relocate_ofQuoted (fun _ => n) 0, unplaced_relocate]

/-- A text that was read without quotes may be printed in quotes. -/
theorem printed_text {s : String} (h : ∀ c ∈ s.toList, c ∉ Lexeme.marks) (n : Nat) :
    Printed mode (render (literal n (.text s) s)).toList (literal n (.text s) s) := by
  have hquoted : ofQuoted n s = literal n (.text s) s :=
    if_neg (by rw [Lexeme.hasReference_of_plain h]; decide)
  rw [← hquoted]
  exact printed_quoted ⟨_, Lexeme.spells_quoted h⟩ n

theorem head?_ne_equals {cs : List Char} (h : ∀ c ∈ cs, c ∉ Lexeme.marks) :
    cs.head? ≠ some '=' := by
  cases cs with
  | nil => simp
  | cons c cs =>
      intro hc
      cases hc
      exact h '=' List.mem_cons_self (by decide)

/-- A literal is printed as it was written, unless it is a text. -/
theorem printed_literal {l : Lexeme} {v : Value} {s : String} (h : Readable mode l)
    (hsource : ∀ src, l.SpelledAs src → src = s.toList ∧ ∀ c ∈ src, c ∉ Lexeme.marks)
    (hl : ∀ n, (⟨l, n⟩ : Token).operand? = some (literal n v s))
    (htext : ∀ x, v = .text x → x = s) (n : Nat) :
    Printed mode (render (literal n v s)).toList (literal n v s) := by
  obtain ⟨src, hsrc⟩ := h
  obtain ⟨rfl, hmarks⟩ := hsource src hsrc.1
  cases v with
  | text x =>
      cases htext x rfl
      exact printed_text hmarks n
  | bool | number => exact .lexeme hsrc (head?_ne_equals hmarks) (hl 0) rfl

theorem exists_literal_ofWord (s : String) :
    ∃ v, (∀ n, ofWord n s = literal n v s) ∧ ∀ x, v = .text x → x = s := by
  cases hb : Value.readBool? s.toList with
  | some b => exact ⟨.bool b, fun n => by rw [ofWord, hb], fun x hx => by cases hx⟩
  | none => exact ⟨.text s, fun n => by rw [ofWord, hb], fun x hx => by cases hx; rfl⟩

theorem exists_literal_ofNumeral (s : String) :
    ∃ v, (∀ n, ofNumeral n s = literal n v s) ∧ ∀ x, v = .text x → x = s := by
  cases hx : Value.readNumber? s.toList with
  | some x => exact ⟨.number x, fun n => by rw [ofNumeral, hx], fun y hy => by cases hy⟩
  | none => exact ⟨.text s, fun n => by rw [ofNumeral, hx], fun y hy => by cases hy; rfl⟩

/-- An operand of one token is printed so that it can be read. -/
theorem printed_of_operand? {t : Token} (ht : Readable mode t.lexeme) (he : t.operand? = some e) :
    Printed mode (render e).toList e := by
  obtain ⟨l, n⟩ := t
  cases l with
  | word s =>
      obtain ⟨v, hword, htext⟩ := exists_literal_ofWord s
      cases (hword n).symm.trans (Option.some.inj he)
      exact printed_literal ht (fun _ => id) (fun n => congrArg some (hword n)) htext n
  | numeral s =>
      obtain ⟨v, hnumeral, htext⟩ := exists_literal_ofNumeral s
      cases (hnumeral n).symm.trans (Option.some.inj he)
      exact printed_literal ht (fun _ => id) (fun n => congrArg some (hnumeral n)) htext n
  | quoted s =>
      cases he
      exact printed_quoted ht n
  | reference r =>
      cases he
      obtain ⟨src, hsrc⟩ := ht
      have hsource : r.text.toList = src := Eq.symm hsrc.1
      have hstart : r.text.toList.head? ≠ some '=' := by
        obtain ⟨sigil, body⟩ := r
        cases sigil <;> simp [Reference.text, Sigil.char]
      exact .lexeme (hsource ▸ hsrc) hstart
        (show (⟨.reference r, 0⟩ : Token).operand? = some (reference 0 r) from rfl) rfl
  | functionName | connective | not | comparison | leftParen | rightParen | comma => cases he

end Printing

end BuildCondition.Expr

namespace BuildCondition

open BuildCondition.Expr

variable {mode : Mode}

mutual

/-- Whatever derives from tokens that could be read is printed so that it can be read again. -/
theorem Derives.printed : ∀ {c d ts e}, Derives c d ts e → (∀ t ∈ ts, Readable mode t.lexeme) →
    Printed mode (render e).toList e
  | _, _, _, _, .expr h, hts => printed_joined .or (h.printed hts)
  | _, _, _, _, .conjunction h, hts => printed_joined .and (h.printed hts)
  | _, _, _, _, @Derives.negation d n ts e h, hts => by
      have he := h.printed fun t ht => hts t (List.mem_cons_of_mem _ ht)
      have := Printed.group (ReadsBack.not he n)
      simpa [render] using this
  | _, _, _, _, .operand h, hts => h.printed hts
  | _, _, _, _, .equality _ hl hr, hts => by
      have hleft := hl.printed fun t ht => hts t (by simp [ht])
      have hright := hr.printed fun t ht => hts t (by simp [ht])
      simpa [render] using Printed.group (ReadsBack.comparison hleft _ hright)
  | _, _, _, _, .loneRelation h, hts => h.printed hts
  | _, _, _, _, .relation _ hl hr, hts => by
      have hleft := hl.printed fun t ht => hts t (by simp [ht])
      have hright := hr.printed fun t ht => hts t (by simp [ht])
      simpa [render] using Printed.group (ReadsBack.comparison hleft _ hright)
  | _, _, _, _, .lonePrimary h, hts => h.printed hts
  | _, _, _, _, .group h, hts => h.printed fun t ht => hts t (by simp [ht])
  | _, _, _, _, .emptyCall, hts => by
      obtain ⟨src, hname⟩ := hts _ List.mem_cons_self
      obtain ⟨rfl, _⟩ := hname.1
      simpa [render, renderArguments] using Printed.emptyCall hname _
  | _, _, _, _, .call h, hts => by
      obtain ⟨src, hname⟩ := hts _ List.mem_cons_self
      obtain ⟨rfl, _⟩ := hname.1
      have hargs := h.printed fun t ht => hts t (by simp [ht])
      simpa [render, renderArguments, toList_renderOthers] using Printed.call hname _ hargs
  | _, _, _, _, .token h, hts => printed_of_operand? (hts _ List.mem_cons_self) h

theorem DerivesList.printed : ∀ {sep c d ts first others}, DerivesList sep c d ts first others →
    (∀ t ∈ ts, Readable mode t.lexeme) →
    ∀ e ∈ first :: others, Printed mode (render e).toList e
  | _, _, _, _, _, _, .last h, hts => List.forall_mem_singleton.mpr (h.printed hts)
  | _, _, _, _, _, _, .more h hs, hts => by
      have hfirst := h.printed fun t ht => hts t (by simp [ht])
      have hothers := hs.printed fun t ht => hts t (by simp [ht])
      exact List.forall_mem_cons.mpr ⟨hfirst, hothers⟩

end

/-- **A condition that is printed and put together again is the same condition**, apart from the
offsets. No limit beyond the length of the printed form is too low. -/
theorem parse_render {limit limit' : Nat} {condition : String} {e : Expr}
    (h : Expr.parse mode limit condition = .ok e) (hlimit : (render e).length < limit') :
    ∃ e', Expr.parse mode limit' (render e) = .ok e' ∧ e'.unplaced = e.unplaced := by
  obtain ⟨ts, hlex, d, _, he⟩ := parse_eq_ok_iff.mp h
  -- the printer is sound for the tokens that cutting can give, not for all there are
  have hreadable : ∀ t ∈ ts, Readable mode t.lexeme := by
    intro t ht
    have hmem : t ∈ (lex mode condition.toList).tokens := by
      rw [hlex]
      exact ht
    exact spells_of_mem_lexAt hmem
  obtain ⟨d', ts', e', hcut, he', hsame⟩ := (he.printed hreadable).reads
  have hlex' := (hcut [] closes_nil).lex_eq
  rw [String.length_toList] at hlex'
  have hnesting := nesting_lt_length_condition hlex' he'
  exact ⟨e', parse_eq_ok_iff.mpr ⟨ts', hlex', d', by omega, he'.to_operand.to_expr⟩, hsame⟩

/-- Words are printed in quotes, and everything with operands in parentheses. -/
theorem parse_render_of_words :
    ∃ e, Expr.parse .propertiesOnly 9 "!a==b or f($(c))" = .ok e ∧ (render e).length < 50 ∧
      ∃ e', Expr.parse .propertiesOnly 50 (render e) = .ok e' ∧ e'.unplaced = e.unplaced :=
  have h : Expr.parse .propertiesOnly 9 "!a==b or f($(c))" =
      .ok (.chain .or (.not 0 (.comparison .equal (.ofWord 1 "a") (.ofWord 4 "b")))
        [.call 9 "f" [.reference 11 ⟨.property, "c"⟩]]) := rfl
  ⟨_, h, by decide, parse_render h (by decide)⟩

end BuildCondition
