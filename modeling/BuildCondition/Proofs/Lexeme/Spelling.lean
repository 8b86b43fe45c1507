import BuildCondition.Proofs.Except
import BuildCondition.Proofs.Lexeme.Brackets
import BuildCondition.Proofs.Lexeme.Numeral

/-!
# How lexemes are spelled

Reading a lexeme is local. What is read is a beginning of the text, spelled as the lexeme is
written, and of what stands behind it no more matters than whether it may stand there: a text
spells a lexeme if it is read as that lexeme before anything that may follow (§2). So lexemes can
be moved from one text to another (§3).
-/

namespace BuildCondition.Lexeme

open BuildCondition.Text

/-! ## §1  What may follow a lexeme -/

/-- What may stand right behind a lexeme without being taken for a part of it or changing what it
is. -/
def EndsBefore (rest : List Char) : Lexeme → Prop
  | numeral _ => Stops clashesWithNumeral rest
  | word _ => Stops isWordChar rest ∧ (trimStart rest).head? ≠ some '('
  | functionName _ => Stops isWordChar rest ∧ (trimStart rest).head? = some '('
  | connective _ => Stops isWordChar rest
  | not | comparison .less | comparison .greater => rest.head? ≠ some '='
  | _ => True

/-- The characters that tell the kind of a lexeme by themselves. -/
def marks : List Char := [',', '(', ')', '$', '@', '%', '\'', '!', '<', '>', '=']

/-- The texts that a lexeme may be written as: one, unless it is a connective. There are no marks in
names and numerals. -/
def SpelledAs (src : List Char) : Lexeme → Prop
  | connective op => connectiveOf? src = some op
  | numeral s | word s | functionName s => src = s.toList ∧ ∀ c ∈ src, c ∉ marks
  | l => src = l.source.toList

theorem connectiveOf?_eq_some {src : List Char} {op : Connective}
    (h : connectiveOf? src = some op) : src.map Char.toLower = op.text.toList := by
  unfold connectiveOf? at h
  simp only [] at h
  split at h
  · rename_i hand
    cases h
    exact hand
  · split at h
    · rename_i hor
      cases h
      exact hor
    · cases h

theorem SpelledAs.length_eq {src : List Char} {l : Lexeme} (h : l.SpelledAs src) :
    src.length = l.width := by
  cases l with
  | connective op =>
      have hlen := congrArg List.length (connectiveOf?_eq_some h)
      rw [List.length_map] at hlen
      rw [hlen]
      exact String.length_toList
  | numeral | word | functionName =>
      rw [h.1]
      exact String.length_toList
  | _ =>
      rw [show src = _ from h]
      exact String.length_toList

theorem toList_source_reference (sigil : Sigil) (body : List Char) :
    (reference ⟨sigil, String.ofList body⟩).source.toList =
      sigil.char :: '(' :: (body ++ [')']) := by
  show (String.ofList (sigil.char :: '(' :: ((String.ofList body).toList ++ [')']))).toList = _
  rw [String.toList_ofList, String.toList_ofList]

theorem toList_source_quoted (inside : List Char) :
    (quoted (String.ofList inside)).source.toList = '\'' :: (inside ++ ['\'']) := by
  show (String.ofList ('\'' :: ((String.ofList inside).toList ++ ['\'']))).toList = _
  rw [String.toList_ofList, String.toList_ofList]

/-! ## §2  Reading is local -/

/-- From behind its first character on, a lexeme is read up to the end of a beginning of `cs`, and
would be read so before anything that may follow it. -/
def ReadLocally (read : List Char → Except Fault Lexeme) (c : Char) (cs : List Char) (l : Lexeme) :
    Prop :=
  ∃ after rest, cs = after ++ rest ∧ l.SpelledAs (c :: after) ∧ l.EndsBefore rest ∧
    ∀ rest', l.EndsBefore rest' → read (after ++ rest') = .ok l

variable {mode : Mode} {c : Char} {cs : List Char} {l : Lexeme}

theorem readProperty_local (h : readProperty cs = .ok l) : ReadLocally readProperty '$' cs l := by
  unfold readProperty at h
  split at h
  · rename_i body
    cases hend : propertyEnd [] Level.fresh 1 ('(' :: body) with
    | stray => rw [hend] at h; cases h
    | missing => rw [hend] at h; cases h
    | closed k =>
        rw [hend] at h
        cases h
        obtain ⟨inside, rest, heq, rfl, hagain⟩ := propertyEnd_eq_closed hend
        -- the search starts at the parenthesis that opens, which is not what it looks for
        cases inside with
        | nil => cases heq
        | cons d inside =>
            rw [List.cons_append, List.cons.injEq] at heq
            obtain ⟨rfl, rfl⟩ := heq
            have hbody : ∀ rest',
                (inside ++ ')' :: rest').take (1 + (inside.length + 1) - 2) = inside := by
              intro rest'
              rw [show 1 + (inside.length + 1) - 2 = inside.length by omega, List.take_left]
            refine ⟨'(' :: (inside ++ [')']), rest, by simp, ?_, trivial, fun rest' _ => ?_⟩
            · show _ = (reference ⟨.property, _⟩).source.toList
              rw [List.length_cons, hbody, toList_source_reference]
              rfl
            · have hclosed := hagain rest'
              rw [List.length_cons, List.cons_append] at hclosed
              rw [List.cons_append, List.append_assoc, List.singleton_append, readProperty, hclosed]
              simp only [referenceUpTo, List.length_cons, hbody]
  · cases h

theorem readItems_local (h : readItems mode cs = .ok l) :
    ReadLocally (readItems mode) '@' cs l := by
  unfold readItems at h
  split at h
  · cases h
  · rename_i hmode
    split at h
    · rename_i body
      cases hend : Reference.closing? true false 0 0 body with
      | none =>
          rw [hend] at h
          simp only [] at h
          split at h <;> cases h
      | some k =>
          rw [hend] at h
          cases h
          obtain ⟨inside, rest, rfl, rfl, hagain⟩ := Reference.closing?_eq_some hend
          refine ⟨'(' :: (inside ++ [')']), rest, by simp, ?_, trivial, fun rest' _ => ?_⟩
          · show _ = (reference ⟨.items, _⟩).source.toList
            rw [Nat.zero_add, List.take_left, toList_source_reference]
            rfl
          · rw [List.cons_append, List.append_assoc, List.singleton_append, readItems, if_neg hmode]
            simp only [hagain rest', referenceUpTo, Nat.zero_add, List.take_left]
    · cases h

theorem readMetadata_local (h : readMetadata mode cs = .ok l) :
    ReadLocally (readMetadata mode) '%' cs l := by
  unfold readMetadata at h
  split at h
  · rename_i body
    split at h
    · cases h
    · rename_i hmode
      cases hcut : cutAt? ')' body with
      | none => rw [hcut] at h; cases h
      | some cut =>
          obtain ⟨inside, rest⟩ := cut
          rw [hcut] at h
          cases h
          obtain ⟨rfl, hinside⟩ := cutAt?_eq_some hcut
          refine ⟨'(' :: (inside ++ [')']), rest, by simp, ?_, trivial, fun rest' _ => ?_⟩
          · show _ = (reference ⟨.metadata, _⟩).source.toList
            rw [toList_source_reference]
            rfl
          · rw [List.cons_append, List.append_assoc, List.singleton_append, readMetadata,
              if_neg hmode, cutAt?_append hinside]
  · cases h

theorem readQuoted_local (h : readQuoted mode cs = .ok l) :
    ReadLocally (readQuoted mode) '\'' cs l := by
  obtain ⟨k, hend, rfl⟩ := map_eq_ok.mp h
  obtain ⟨inside, rest, rfl, rfl, hagain⟩ := quoteEnd_eq_ok hend
  refine ⟨inside ++ ['\''], rest, by simp, ?_, trivial, fun rest' _ => ?_⟩
  · show _ = (quoted _).source.toList
    rw [Nat.zero_add, List.take_left, toList_source_quoted]
  · rw [List.append_assoc, List.singleton_append, readQuoted, hagain rest', Nat.zero_add,
      List.take_left]
    show Except.ok (quoted (String.ofList ((inside ++ '\'' :: rest').take inside.length))) = _
    rw [List.take_left]

theorem not_mem_marks_of_isWordChar (h : isWordChar c = true) : c ∉ marks := by
  intro hmark
  have hnone : marks.all (fun c => !isWordChar c) = true := by decide
  have hword := List.all_eq_true.mp hnone c hmark
  rw [h] at hword
  cases hword

theorem not_mem_marks_of_numeralChars {chars : List Char} (h : numeralChars cs = .ok chars)
    (hc : c ∈ chars) : c ∉ marks := by
  intro hmark
  have hnone : marks.all (fun c => !clashesWithNumeral c) = true := by decide
  have hclash := List.all_eq_true.mp hnone c hmark
  rcases mem_numeralChars h hc with hc | rfl | rfl
  · rw [hc] at hclash
    cases hclash
  · exact absurd hmark (by decide)
  · exact absurd hmark (by decide)

theorem readNumeral_local (h : readNumeral (c :: cs) = .ok l) :
    ReadLocally (fun cs => readNumeral (c :: cs)) c cs l := by
  obtain ⟨chars, hchars, h⟩ := bind_eq_ok.mp h
  obtain ⟨hne, rest, heq⟩ := exists_eq_append_of_numeralChars hchars
  obtain ⟨d, after, rfl⟩ := List.exists_cons_of_ne_nil hne
  rw [List.cons_append, List.cons.injEq] at heq
  obtain ⟨rfl, rfl⟩ := heq
  rw [show (c :: (after ++ rest)).drop (c :: after).length = rest from List.drop_left] at h
  have hread : ∀ rest', Stops clashesWithNumeral rest' →
      readNumeral (c :: (after ++ rest')) = .ok (numeral (String.ofList (c :: after))) := by
    intro rest' hrest'
    refine bind_eq_ok.mpr ⟨c :: after, numeralChars_append hchars hrest', ?_⟩
    rw [show (c :: (after ++ rest')).drop (c :: after).length = rest' from List.drop_left]
    cases rest' with
    | nil => rfl
    | cons e rest' => exact if_neg (by rw [hrest'.head]; decide)
  have hspelled : (numeral (String.ofList (c :: after))).SpelledAs (c :: after) :=
    ⟨String.toList_ofList.symm, fun d hd => not_mem_marks_of_numeralChars hchars hd⟩
  cases rest with
  | nil =>
      cases h
      exact ⟨after, [], rfl, hspelled, stops_nil, hread⟩
  | cons e rest =>
      simp only [] at h
      split at h
      · cases h
      · rename_i he
        cases h
        exact ⟨after, e :: rest, rfl, hspelled, stops_cons (by simpa using he), hread⟩

theorem readWord_local (hc : isWordChar c = true) :
    ReadLocally (fun cs => .ok (readWord (c :: cs))) c cs (readWord (c :: cs)) := by
  have hchars : (c :: cs).takeWhile isWordChar = c :: cs.takeWhile isWordChar :=
    List.takeWhile_cons_of_pos hc
  have hrest : (c :: cs).dropWhile isWordChar = cs.dropWhile isWordChar :=
    List.dropWhile_cons_of_pos hc
  have hagain : ∀ rest', Stops isWordChar rest' →
      (c :: (cs.takeWhile isWordChar ++ rest')).takeWhile isWordChar =
          c :: cs.takeWhile isWordChar ∧
        (c :: (cs.takeWhile isWordChar ++ rest')).dropWhile isWordChar = rest' := by
    intro rest' hrest'
    rw [List.takeWhile_cons_of_pos hc, List.dropWhile_cons_of_pos hc,
      takeWhile_append_stops all_takeWhile hrest', dropWhile_append_stops all_takeWhile hrest']
    exact ⟨rfl, rfl⟩
  have hmarks : ∀ d ∈ c :: cs.takeWhile isWordChar, d ∉ marks := by
    rw [← hchars]
    exact fun d hd => not_mem_marks_of_isWordChar (all_takeWhile d hd)
  refine ⟨cs.takeWhile isWordChar, cs.dropWhile isWordChar,
    List.takeWhile_append_dropWhile.symm, ?_⟩
  -- a connective whatever follows, else the name of a function if a parenthesis does, else a word
  unfold readWord
  simp only [hchars, hrest]
  cases hop : connectiveOf? (c :: cs.takeWhile isWordChar) with
  | some op =>
      refine ⟨hop, stops_dropWhile, fun rest' hrest' => ?_⟩
      simp only [(hagain rest' hrest').1, hop]
  | none =>
      by_cases hparen : (trimStart (cs.dropWhile isWordChar)).head? = some '('
      · simp only [if_pos hparen]
        refine ⟨⟨String.toList_ofList.symm, hmarks⟩, ⟨stops_dropWhile, hparen⟩, ?_⟩
        intro rest' hrest'
        simp only [(hagain rest' hrest'.1).1, (hagain rest' hrest'.1).2, hop, if_pos hrest'.2]
      · simp only [if_neg hparen]
        refine ⟨⟨String.toList_ofList.symm, hmarks⟩, ⟨stops_dropWhile, hparen⟩, ?_⟩
        intro rest' hrest'
        simp only [(hagain rest' hrest'.1).1, (hagain rest' hrest'.1).2, hop, if_neg hrest'.2]

/-- An operator whose text is `text` if an equals sign follows its first character. -/
theorem withEquals_local {long short : Lexeme} (hlong : long.SpelledAs [c, '='])
    (hshort : short.SpelledAs [c]) (hlongEnds : ∀ rest, long.EndsBefore rest)
    (hshortEnds : ∀ rest, short.EndsBefore rest ↔ rest.head? ≠ some '=')
    (h : withEquals cs long short = .ok l) :
    ReadLocally (fun cs => withEquals cs long short) c cs l := by
  unfold withEquals at h
  by_cases hhead : cs.head? = some '='
  · rw [if_pos hhead] at h
    cases h
    cases cs with
    | nil => cases hhead
    | cons d cs =>
        cases hhead
        exact ⟨['='], cs, rfl, hlong, hlongEnds cs, fun rest' _ => rfl⟩
  · rw [if_neg hhead] at h
    cases h
    exact ⟨[], cs, rfl, hshort, (hshortEnds cs).mpr hhead, fun rest' hrest' =>
      congrArg Except.ok (if_neg ((hshortEnds rest').mp hrest'))⟩

theorem single_local {l : Lexeme} (h : l.SpelledAs [c]) (hends : ∀ rest, l.EndsBefore rest) :
    ReadLocally (fun _ => .ok l) c cs l :=
  ⟨[], cs, rfl, h, hends cs, fun _ _ => rfl⟩

theorem isWordChar_of_startsWord (h : startsWord c = true) : isWordChar c = true := by
  rw [startsWord, Bool.or_eq_true] at h
  rw [isWordChar, isAlphanumeric, Bool.or_eq_true, Bool.or_eq_true]
  exact h.imp_left Or.inl

theorem readLexeme_equals :
    readLexeme mode '=' cs =
      if cs.head? = some '=' then .ok (comparison .equal)
      else .error ⟨.loneEquals, some (describeHead cs), 1, 0⟩ := rfl

theorem equals_local (h : readLexeme mode '=' cs = .ok l) :
    ReadLocally (readLexeme mode '=') '=' cs l := by
  rw [readLexeme_equals] at h
  split at h
  · rename_i hhead
    cases h
    cases cs with
    | nil => cases hhead
    | cons d cs =>
        cases hhead
        exact ⟨['='], cs, rfl, rfl, trivial, fun rest' _ => rfl⟩
  · cases h

theorem readLexeme_of_not_mark (h : c ∉ marks) :
    readLexeme mode c cs =
      if startsNumeral c then readNumeral (c :: cs)
      else if startsWord c then .ok (readWord (c :: cs))
      else .error ⟨.unexpectedCharacter, some (String.singleton c), 0, 0⟩ := by
  simp only [marks, List.mem_cons, List.not_mem_nil, or_false, not_or] at h
  simp only [readLexeme, h, if_false]

/-- **Reading is local.** Whatever lexeme is read, it is spelled by a beginning of the text, and is
read again before anything that may follow it. -/
theorem readLexeme_local (h : readLexeme mode c cs = .ok l) :
    ReadLocally (readLexeme mode c) c cs l := by
  by_cases hmark : c ∈ marks
  · simp only [marks, List.mem_cons, List.not_mem_nil, or_false] at hmark
    -- in the order of `marks`
    rcases hmark with rfl | rfl | rfl | rfl | rfl | rfl | rfl | rfl | rfl | rfl | rfl
    · cases h
      exact single_local rfl fun _ => trivial
    · cases h
      exact single_local rfl fun _ => trivial
    · cases h
      exact single_local rfl fun _ => trivial
    · exact readProperty_local h
    · exact readItems_local h
    · exact readMetadata_local h
    · exact readQuoted_local h
    · exact withEquals_local rfl rfl (fun _ => trivial) (fun _ => Iff.rfl) h
    · exact withEquals_local rfl rfl (fun _ => trivial) (fun _ => Iff.rfl) h
    · exact withEquals_local rfl rfl (fun _ => trivial) (fun _ => Iff.rfl) h
    · exact equals_local h
  have hread : readLexeme mode c = fun cs =>
      if startsNumeral c then readNumeral (c :: cs)
      else if startsWord c then .ok (readWord (c :: cs))
      else .error ⟨.unexpectedCharacter, some (String.singleton c), 0, 0⟩ :=
    funext fun _ => readLexeme_of_not_mark hmark
  rw [hread] at h ⊢
  -- without a mark, a lexeme is a numeral or made of letters
  by_cases hnumeral : startsNumeral c = true
  · simp only [if_pos hnumeral] at h ⊢
    exact readNumeral_local h
  · by_cases hword : startsWord c = true
    · simp only [if_neg hnumeral, if_pos hword] at h ⊢
      cases h
      exact readWord_local (isWordChar_of_startsWord hword)
    · simp only [if_neg hnumeral, if_neg hword] at h
      cases h

/-! ## §3  Spelling -/

/-- A text spells a lexeme if it is read as that lexeme before anything that may follow. -/
def Spells (mode : Mode) (src : List Char) (l : Lexeme) : Prop :=
  l.SpelledAs src ∧ ∃ c after, src = c :: after ∧ isBlank c = false ∧
    ∀ rest, l.EndsBefore rest → readLexeme mode c (after ++ rest) = .ok l

theorem spells_of_readLexeme (hblank : isBlank c = false) (h : readLexeme mode c cs = .ok l) :
    ∃ src rest, c :: cs = src ++ rest ∧ Spells mode src l ∧ l.EndsBefore rest := by
  obtain ⟨after, rest, rfl, hsrc, hrest, hread⟩ := readLexeme_local h
  exact ⟨c :: after, rest, rfl, ⟨hsrc, c, after, rfl, hblank, hread⟩, hrest⟩

theorem spells_leftParen : Spells mode ['('] leftParen :=
  ⟨rfl, '(', [], rfl, rfl, fun _ _ => rfl⟩

theorem spells_rightParen : Spells mode [')'] rightParen :=
  ⟨rfl, ')', [], rfl, rfl, fun _ _ => rfl⟩

theorem spells_comma : Spells mode [','] comma :=
  ⟨rfl, ',', [], rfl, rfl, fun _ _ => rfl⟩

theorem spells_not : Spells mode ['!'] not :=
  ⟨rfl, '!', [], rfl, rfl, fun _ hrest => congrArg Except.ok (if_neg hrest)⟩

theorem spells_comparison (op : Comparison) : Spells mode op.text.toList (comparison op) := by
  cases op with
  | equal => exact ⟨rfl, '=', ['='], rfl, rfl, fun _ _ => rfl⟩
  | notEqual => exact ⟨rfl, '!', ['='], rfl, rfl, fun _ _ => rfl⟩
  | less => exact ⟨rfl, '<', [], rfl, rfl, fun _ hrest => congrArg Except.ok (if_neg hrest)⟩
  | lessOrEqual => exact ⟨rfl, '<', ['='], rfl, rfl, fun _ _ => rfl⟩
  | greater => exact ⟨rfl, '>', [], rfl, rfl, fun _ hrest => congrArg Except.ok (if_neg hrest)⟩
  | greaterOrEqual => exact ⟨rfl, '>', ['='], rfl, rfl, fun _ _ => rfl⟩

theorem spells_connective (op : Connective) : Spells mode op.text.toList (connective op) := by
  have hread : ∀ c after, (c :: after).all isWordChar = true → c ∉ marks →
      startsNumeral c = false → startsWord c = true → connectiveOf? (c :: after) = some op →
      ∀ rest, (connective op).EndsBefore rest →
        readLexeme mode c (after ++ rest) = .ok (connective op) := by
    intro c after hchars hmark hnumeral hword hop rest hrest
    rw [readLexeme_of_not_mark hmark, if_neg (by rw [hnumeral]; decide), if_pos hword, readWord,
      ← List.cons_append, takeWhile_append_stops (List.all_eq_true.mp hchars) hrest]
    simp only [hop]
  cases op with
  | or =>
      exact ⟨rfl, 'o', ['r'], rfl, rfl,
        hread 'o' ['r'] (by decide) (by decide) (by decide) (by decide) (by decide)⟩
  | and =>
      exact ⟨rfl, 'a', ['n', 'd'], rfl, rfl,
        hread 'a' ['n', 'd'] (by decide) (by decide) (by decide) (by decide) (by decide)⟩

theorem quoteEnd_of_plain {k : Nat} {cs rest : List Char} (h : ∀ c ∈ cs, c ∉ marks) :
    quoteEnd mode .text k (cs ++ '\'' :: rest) = .ok (k + cs.length) := by
  induction cs generalizing k with
  | nil => exact quoteEnd_text_quote
  | cons c cs ih =>
      have hmark : ∀ d ∈ marks, c ≠ d := fun d hd hcd => h c List.mem_cons_self (hcd ▸ hd)
      rw [List.cons_append, quoteEnd_text_pass (hmark '\'' (by decide))
        (fun hc => hmark '@' (by decide) hc.1) (fun hc => hmark '%' (by decide) hc.1),
        ih fun d hd => h d (List.mem_cons_of_mem c hd), List.length_cons, Nat.add_assoc,
        Nat.add_comm 1]

/-- A text may be put in quotes if the second one is where reading ends. -/
theorem spells_quoted_of_quoteEnd {cs : List Char}
    (h : ∀ rest, quoteEnd mode .text 0 (cs ++ '\'' :: rest) = .ok cs.length) :
    Spells mode (quoted (String.ofList cs)).source.toList (quoted (String.ofList cs)) := by
  refine ⟨rfl, '\'', cs ++ ['\''], toList_source_quoted cs, rfl, fun rest _ => ?_⟩
  rw [List.append_assoc, List.singleton_append]
  show readQuoted mode (cs ++ '\'' :: rest) = _
  rw [readQuoted, h]
  show Except.ok (quoted (String.ofList ((cs ++ '\'' :: rest).take cs.length))) = _
  rw [List.take_left]

/-- A text without marks may be put in quotes in either mode. -/
theorem spells_quoted {s : String} (h : ∀ c ∈ s.toList, c ∉ marks) :
    Spells mode (quoted s).source.toList (quoted s) := by
  obtain ⟨cs, rfl⟩ : ∃ cs, s = String.ofList cs := ⟨s.toList, String.ofList_toList.symm⟩
  rw [String.toList_ofList] at h
  refine spells_quoted_of_quoteEnd fun rest => ?_
  rw [quoteEnd_of_plain h, Nat.zero_add]

theorem hasReference_of_plain {cs : List Char} (h : ∀ c ∈ cs, c ∉ marks) :
    hasReference cs = false := by
  induction cs with
  | nil => rfl
  | cons c cs ih =>
      have hmark : ∀ d ∈ marks, c ≠ d := fun d hd hcd => h c List.mem_cons_self (hcd ▸ hd)
      have hpercent := hmark '%' (by decide)
      have hdollar := hmark '$' (by decide)
      have hat := hmark '@' (by decide)
      simp [hasReference, hpercent, hdollar, hat, ih fun d hd => h d (List.mem_cons_of_mem c hd)]

end BuildCondition.Lexeme
