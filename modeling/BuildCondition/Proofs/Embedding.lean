import BuildCondition.Expr.Evaluation
import BuildCondition.Expr.Printer
import BuildCondition.Proofs.Grammar.Acceptance
import BuildCondition.Proofs.Mode.Lexing
import BuildCondition.Proofs.Template

/-!
# Texts put into a condition

Whoever writes a condition around texts that are not known yet escapes them, or has them looked up
escaped. That is safe. Whatever the texts are, the quotes around them end where they should, the
references between them are found and no others (§1), and the value is what was meant: the texts one
after the other, each property looked up once (§2).
-/

namespace BuildCondition

open BuildCondition.Text

/-! ## §1  Parts -/

/-- The name of a property that may be referred to between quotes. -/
structure PlainName where
  text : String
  noQuote : '\'' ∉ text.toList
  noOpening : '(' ∉ text.toList
  noClosing : ')' ∉ text.toList

/-- A part of a quoted text: a text that is escaped, or a reference to a property whose value is
a text that has been escaped. -/
inductive Part where
  | text (s : String)
  | property (name : PlainName) (value : String)

namespace PlainName

/-- What a reference to the property looks up. -/
def lookup (name : PlainName) : Lookup :=
  .property (String.ofList (trim name.text.toList))

end PlainName

namespace Part

/-- A part as it is written. -/
def written : Part → List Char
  | text s => Percent.escape s.toList
  | property name _ => '$' :: '(' :: (name.text.toList ++ [')'])

/-- What a part stands for. -/
def meant : Part → List Char
  | text s => s.toList
  | property _ value => value.toList

/-- What a part looks up. -/
def query? : Part → Option Query
  | text _ => none
  | property name _ => some (.lookup name.lookup)

/-- The pieces that a part is taken apart into. -/
def pieces : Part → List Piece
  | text s => (Percent.escape s.toList).map .char
  | property name _ => [.reference ⟨.property, name.text⟩]

/-- A state of the build has the values of the properties, escaped. -/
def HoldsIn (state : BuildState) : Part → Prop
  | text _ => True
  | property name value => Template.found state name.lookup = Percent.escape value.toList

end Part

section Written

variable {c : Char} {cs rest : List Char}

theorem not_holdsItems_append (hsrc : '(' ∉ cs) (hhead : rest.head? ≠ some '(')
    (hrest : ¬Lexeme.HoldsItems rest) : ¬Lexeme.HoldsItems (cs ++ rest) := by
  induction cs with
  | nil => exact hrest
  | cons c cs ih =>
      have hmore : '(' ∉ cs := fun h => hsrc (List.mem_cons_of_mem c h)
      rw [List.cons_append, Lexeme.holdsItems_cons]
      rintro (⟨_, h⟩ | h)
      · exact Template.head?_append_ne hmore hhead h
      · exact ih hmore h

/-- A quoted text without quotes and items is read up to the quote behind it. -/
theorem quoteEnd_of_not_holdsItems {mode : Mode} {k : Nat} (hquote : '\'' ∉ cs)
    (hitems : ¬Lexeme.HoldsItems cs) (rest : List Char) :
    Lexeme.quoteEnd mode .text k (cs ++ '\'' :: rest) = .ok (k + cs.length) := by
  induction cs generalizing k with
  | nil => exact Lexeme.quoteEnd_text_quote
  | cons c cs ih =>
      rw [List.mem_cons, not_or] at hquote
      rw [Lexeme.holdsItems_cons, not_or] at hitems
      have hhead : (cs ++ '\'' :: rest).head? = some '(' → cs.head? = some '(' := by
        cases cs <;> simp
      rw [List.cons_append, Lexeme.quoteEnd_text_pass (fun hc => hquote.1 hc.symm)
        (fun hc => hitems.1 ⟨.inl hc.1, hhead hc.2⟩)
        (fun hc => hitems.1 ⟨.inr hc.1, hhead hc.2.1⟩), ih hquote.2 hitems.2, List.length_cons,
        Nat.add_assoc, Nat.add_comm 1]

theorem not_mem_written (part : Part) : '\'' ∉ part.written := by
  cases part with
  | text s => exact Percent.not_mem_escape (by decide) (by decide) s.toList
  | property name value =>
      simp [Part.written, name.noQuote]

/-- What is written is closed: nothing in it goes together with what is written behind it. -/
theorem written_closed (part : Part) (hhead : rest.head? ≠ some '(')
    (hrest : ¬Lexeme.HoldsItems rest) :
    (part.written ++ rest).head? ≠ some '(' ∧ ¬Lexeme.HoldsItems (part.written ++ rest) ∧
      Template.pieces (part.written ++ rest) = part.pieces ++ Template.pieces rest := by
  cases part with
  | text s =>
      have hopen : '(' ∉ Percent.escape s.toList :=
        Percent.not_mem_escape (by decide) (by decide) s.toList
      exact ⟨Template.head?_append_ne hopen hhead, not_holdsItems_append hopen hhead hrest,
        Template.pieces_append_of_not_mem hopen hhead⟩
  | property name value =>
      have hsrc : (Part.property name value).written ++ rest =
          '$' :: '(' :: (name.text.toList ++ ')' :: rest) := by
        simp [Part.written]
      rw [hsrc]
      refine ⟨by simp, ?_, ?_⟩
      · have hinside : ¬Lexeme.HoldsItems (name.text.toList ++ ')' :: rest) := by
          refine not_holdsItems_append name.noOpening (by simp) ?_
          rw [Lexeme.holdsItems_cons]
          rintro (⟨h, _⟩ | h)
          · exact absurd h (by decide)
          · exact hrest h
        rw [Lexeme.holdsItems_cons, Lexeme.holdsItems_cons]
        rintro (⟨h, _⟩ | ⟨h, _⟩ | h)
        · exact absurd h (by decide)
        · exact absurd h (by decide)
        · exact hinside h
      · rw [Template.pieces_property name.noOpening name.noClosing, String.ofList_toList]
        rfl

theorem written_parts (parts : List Part) :
    (parts.flatMap Part.written).head? ≠ some '(' ∧
      ¬Lexeme.HoldsItems (parts.flatMap Part.written) ∧
      Template.pieces (parts.flatMap Part.written) = parts.flatMap Part.pieces := by
  induction parts with
  | nil => exact ⟨by simp, Lexeme.not_holdsItems_nil, rfl⟩
  | cons part parts ih =>
      obtain ⟨hhead, hitems, hpieces⟩ := ih
      obtain ⟨hhead', hitems', hpieces'⟩ := written_closed part hhead hitems
      rw [List.flatMap_cons, List.flatMap_cons]
      refine ⟨hhead', hitems', ?_⟩
      rw [hpieces', hpieces]

end Written

/-! ## §2  The condition -/

/-- Some parts, written one after the other. -/
def writtenText (parts : List Part) : String :=
  String.ofList (parts.flatMap Part.written)

/-- What some parts stand for, one after the other. -/
def meantText (parts : List Part) : String :=
  String.ofList (parts.flatMap Part.meant)

theorem toList_inQuotes (s : String) : (Expr.inQuotes s).toList = '\'' :: (s.toList ++ ['\'']) := by
  simp [Expr.inQuotes]

theorem source_quoted (s : String) : (Lexeme.quoted s).source = Expr.inQuotes s := by
  have hsource := Lexeme.toList_source_quoted s.toList
  rwa [String.ofList_toList, ← toList_inQuotes, String.toList_inj] at hsource

/-- A text in quotes is one token if reading ends at the second quote, whatever follows. -/
theorem lex_inQuotes {mode : Mode} {s : String}
    (h : ∀ rest, Lexeme.quoteEnd mode .text 0 (s.toList ++ '\'' :: rest) = .ok s.toList.length) :
    lex mode (Expr.inQuotes s).toList =
      ⟨[⟨.quoted s, 0⟩], .ok (Expr.inQuotes s).length⟩ := by
  have hspells := Lexeme.spells_quoted_of_quoteEnd h
  rw [String.ofList_toList, source_quoted] at hspells
  have hcut : CutBefore mode [] (Expr.inQuotes s).toList [⟨.quoted s, 0⟩] :=
    .lexeme hspells trivial
  rw [hcut.lex_eq, String.length_toList]

theorem quoteEnd_writtenText (mode : Mode) (parts : List Part) (rest : List Char) :
    Lexeme.quoteEnd mode .text 0 ((writtenText parts).toList ++ '\'' :: rest) =
      .ok (writtenText parts).toList.length := by
  have hquote : '\'' ∉ parts.flatMap Part.written := by
    intro h
    obtain ⟨part, _, hpart⟩ := List.mem_flatMap.mp h
    exact not_mem_written part hpart
  rw [writtenText, String.toList_ofList,
    quoteEnd_of_not_holdsItems hquote (written_parts parts).2.1, Nat.zero_add]

theorem lex_inQuotes_writtenText (mode : Mode) (parts : List Part) :
    lex mode (Expr.inQuotes (writtenText parts)).toList =
      ⟨[⟨.quoted (writtenText parts), 0⟩], .ok (Expr.inQuotes (writtenText parts)).length⟩ :=
  lex_inQuotes (quoteEnd_writtenText mode parts)

/-- A quoted text is filled in whether there is something to fill in or not. -/
theorem value_ofQuoted (n : Nat) (s : String) :
    (Expr.ofQuoted n s).value = (Template.fill s).map .text := by
  unfold Expr.ofQuoted
  split
  · rfl
  · rename_i hplain
    rw [Template.fill_of_plain (Bool.eq_false_iff.mpr hplain)]
    rfl

theorem references_pieces (parts : List Part) :
    (Template.references (parts.flatMap Part.pieces)).map (fun r => Query.lookup r.lookup) =
      parts.filterMap Part.query? := by
  induction parts with
  | nil => rfl
  | cons part parts ih =>
      rw [List.flatMap_cons, Template.references_append, List.map_append, ih]
      cases part with
      | text s =>
          show (Template.references ((Percent.escape s.toList).map .char)).map _ ++ _ = _
          rw [Template.references_map_char]
          rfl
      | property name value => rfl

/-- What is put in for the references is escaped like the texts between them. -/
theorem raw_pieces {state : BuildState} {parts : List Part}
    (h : ∀ part ∈ parts, part.HoldsIn state) :
    (parts.flatMap Part.pieces).flatMap (Template.raw state) =
      Percent.escape (parts.flatMap Part.meant) := by
  induction parts with
  | nil => rfl
  | cons part parts ih =>
      obtain ⟨hpart, hparts⟩ := List.forall_mem_cons.mp h
      rw [List.flatMap_cons, List.flatMap_append, ih hparts, List.flatMap_cons,
        Percent.escape_append]
      congr 1
      cases part with
      | text s =>
          show ((Percent.escape s.toList).map .char).flatMap (Template.raw state) = _
          rw [List.flatMap_map]
          exact List.flatMap_singleton' _
      | property name value =>
          show Template.found state name.lookup ++ [] = Percent.escape value.toList
          rw [List.append_nil]
          exact hpart

/-- Wherever they stand between quotes, escaped texts have the value that is meant. -/
theorem run_value_writtenText {state : BuildState} {parts : List Part}
    (h : ∀ part ∈ parts, part.HoldsIn state) (n : Nat) :
    (Expr.ofQuoted n (writtenText parts)).value.run state =
      (parts.filterMap Part.query?, .ok (.text (meantText parts))) := by
  rw [value_ofQuoted, Asking.map, Asking.run_bind, Template.run_fill, writtenText,
    String.toList_ofList, (written_parts parts).2.2, references_pieces, raw_pieces h,
    Percent.unescape_escape]
  simp [Asking.ok, meantText]

/-- **Escaped texts can be put between quotes.** The condition is one quoted text in either mode,
and its value is the texts one after the other; only the properties are looked up, in order and each
as often as it is written. -/
theorem inQuotes_writtenText_means {state : BuildState} {parts : List Part}
    (h : ∀ part ∈ parts, part.HoldsIn state) (mode : Mode) (limit : Nat) :
    tokenize mode (Expr.inQuotes (writtenText parts)) =
        .ok [.token ⟨.quoted (writtenText parts), 0⟩,
          .endOfInput (Expr.inQuotes (writtenText parts)).length] ∧
      ∃ e, Expr.parse mode (limit + 1) (Expr.inQuotes (writtenText parts)) = .ok e ∧
        e.value.run state = (parts.filterMap Part.query?, .ok (.text (meantText parts))) := by
  have hlex := lex_inQuotes_writtenText mode parts
  constructor
  · exact tokenize_eq_ok_iff.mpr hlex
  · refine ⟨.ofQuoted 0 (writtenText parts), ?_, run_value_writtenText h 0⟩
    have hderives : Derives .expr 0 [⟨.quoted (writtenText parts), 0⟩]
        (.ofQuoted 0 (writtenText parts)) :=
      (Derives.token rfl).to_operand.to_expr
    exact parse_eq_ok_iff.mpr ⟨_, hlex, 0, Nat.succ_pos limit, hderives⟩

/-- Quotes, parentheses, a percent sign and a semicolon, some in the text and some in the value of a
property. -/
theorem inQuotes_means_specials :
    ∃ (state : BuildState) (name : PlainName),
      Template.found state name.lookup = Percent.escape "a;b".toList ∧
      ∃ e, Expr.parse .propertiesOnly 1 "'it%27s $(x) %2850%25%29'" = .ok e ∧
        e.value.run state =
          ([.lookup (.property "x")], .ok (.text "it's a;b (50%)")) := by
  let state : BuildState := .answering (fun _ => some "a%3bb") (.bool true)
  let name : PlainName := ⟨"x", by decide, by decide, by decide⟩
  let parts : List Part := [.text "it's ", .property name "a;b", .text " (50%)"]
  have hfound : Template.found state name.lookup = Percent.escape "a;b".toList := by decide
  have hholds : ∀ part ∈ parts, part.HoldsIn state := by
    rw [List.forall_mem_cons, List.forall_mem_cons, List.forall_mem_singleton]
    exact ⟨trivial, hfound, trivial⟩
  have hwritten : Expr.inQuotes (writtenText parts) = "'it%27s $(x) %2850%25%29'" := by decide
  have hmeant : meantText parts = "it's a;b (50%)" := by decide
  have hlookup : name.lookup = .property "x" := by decide
  have hasked : parts.filterMap Part.query? = [.lookup name.lookup] := rfl
  obtain ⟨e, hparse, hrun⟩ := (inQuotes_writtenText_means hholds .propertiesOnly 0).2
  rw [hwritten] at hparse
  rw [hasked, hlookup, hmeant] at hrun
  exact ⟨state, name, hfound, e, hparse, hrun⟩

end BuildCondition
