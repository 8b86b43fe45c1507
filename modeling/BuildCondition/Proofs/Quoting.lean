import BuildCondition.Proofs.Embedding
import BuildCondition.Proofs.Lexeme.Closing

/-!
# References in quotes

A reference may be put in quotes, as in `'$(Name)' == ''`, and it should not matter whether it is.
Where a condition is one lexeme, what is left of it holds blanks only (§1). If the reference is one
lexeme with quotes as it was without, the two conditions look the same thing up, once, and have the
same value (§2). This is so for properties, and for item lists as long as no quote in them ends the
text around them (§3).
-/

namespace BuildCondition

open BuildCondition.Expr BuildCondition.Text

/-! ## §1  Conditions of one lexeme -/

section OneLexeme

variable {mode : Mode} {position n : Nat} {c d : Char} {cs : List Char} {l : Lexeme} {t : Token}
  {r : Reference}

theorem isBlank_of_lexAt (htokens : (lexAt mode position cs).tokens = [])
    (hending : (lexAt mode position cs).ending = .ok n) : ∀ c ∈ cs, isBlank c = true := by
  induction cs using pieceInduction mode generalizing position with
  | nil => exact fun c hc => absurd hc List.not_mem_nil
  | blank c cs hblank ih =>
      rw [lexAt_blank hblank] at htokens hending
      exact List.forall_mem_cons.mpr ⟨hblank, ih htokens hending⟩
  | lexeme src l rest hsrc hrest ih =>
      rw [lexAt_lexeme hsrc hrest] at htokens
      cases htokens
  | fault c cs f hblank hread =>
      rw [lexAt_fault hblank hread] at hending
      cases hending

/-- A text without blanks at its ends that is cut into one token is the spelling of a lexeme. -/
theorem spells_of_lex (hfirst : isBlank c = false) (hlast : isBlank d = false)
    (h : lex mode (c :: (cs ++ [d])) = ⟨[t], .ok n⟩) :
    t.offset = 0 ∧ Lexeme.readLexeme mode c (cs ++ [d]) = .ok t.lexeme ∧
      t.lexeme.Spells mode (c :: (cs ++ [d])) := by
  have hlex : lexAt mode 0 (c :: (cs ++ [d])) = ⟨[t], .ok n⟩ := h
  cases hread : Lexeme.readLexeme mode c (cs ++ [d]) with
  | error f =>
      rw [lexAt_fault hfirst hread] at hlex
      cases congrArg Lexed.tokens hlex
  | ok l =>
      obtain ⟨src, rest, heq, hsrc, hends⟩ := Lexeme.spells_of_readLexeme hfirst hread
      rw [heq, lexAt_lexeme hsrc hends] at hlex
      obtain ⟨rfl, hmore⟩ := List.cons.inj (congrArg Lexed.tokens hlex)
      have hblank := isBlank_of_lexAt hmore (congrArg Lexed.ending hlex)
      -- the last character is no blank, so it belongs to the lexeme
      rcases List.eq_nil_or_concat rest with rfl | ⟨rest, e, rfl⟩
      · rw [List.append_nil] at heq
        exact ⟨rfl, rfl, heq ▸ hsrc⟩
      · rw [List.concat_eq_append] at heq hblank
        rw [← List.cons_append, ← List.append_assoc] at heq
        obtain rfl : d = e := List.singleton_inj.mp (List.append_inj' heq rfl).2
        rw [hblank d (by simp)] at hlast
        cases hlast

/-- What begins with a sigil is a reference. -/
theorem exists_reference_of_readLexeme {sigil : Sigil}
    (h : Lexeme.readLexeme mode sigil.char cs = .ok l) :
    ∃ body, l = .reference ⟨sigil, body⟩ := by
  cases sigil with
  | property =>
      have hread : Lexeme.readProperty cs = .ok l := h
      unfold Lexeme.readProperty at hread
      split at hread
      · split at hread <;> cases hread
        exact ⟨_, rfl⟩
      · cases hread
  | items =>
      have hread : Lexeme.readItems mode cs = .ok l := h
      unfold Lexeme.readItems at hread
      split at hread
      · cases hread
      · split at hread
        · split at hread
          · cases hread
            exact ⟨_, rfl⟩
          · split at hread <;> cases hread
        · cases hread
  | metadata =>
      have hread : Lexeme.readMetadata mode cs = .ok l := h
      unfold Lexeme.readMetadata at hread
      split at hread
      · split at hread
        · cases hread
        · split at hread <;> cases hread
          exact ⟨_, rfl⟩
      · cases hread

/-- A condition that is written like a reference and is one token, is that reference, and would be
read as such whatever stood behind it. -/
theorem reference_of_lex (h : lex mode r.text.toList = ⟨[t], .ok n⟩) :
    t = ⟨.reference r, 0⟩ ∧ (Lexeme.reference r).Spells mode r.text.toList := by
  obtain ⟨sigil, body⟩ := r
  obtain ⟨l, offset⟩ := t
  have hblank : isBlank sigil.char = false := by cases sigil <;> decide
  have htext : (Reference.text ⟨sigil, body⟩).toList =
      sigil.char :: (('(' :: body.toList) ++ [')']) := Reference.toList_text _
  rw [htext] at h ⊢
  obtain ⟨hoffset, hread, hspells⟩ := spells_of_lex hblank (by decide) h
  obtain rfl : offset = 0 := hoffset
  obtain ⟨body', rfl⟩ := exists_reference_of_readLexeme hread
  have hsource : sigil.char :: (('(' :: body.toList) ++ [')']) =
      (Reference.text ⟨sigil, body'⟩).toList := hspells.1
  rw [Reference.toList_text] at hsource
  have hbody := (List.append_inj' (List.cons.inj (List.cons.inj hsource).2).2 rfl).1
  obtain rfl : body = body' := String.toList_inj.mp hbody
  exact ⟨rfl, hspells⟩

/-- A reference that is read on its own ends where its parenthesis is closed. -/
theorem readLexeme_of_lex (h : lex mode r.text.toList = ⟨[t], .ok n⟩) :
    Lexeme.readLexeme mode r.sigil.char ('(' :: (r.body.toList ++ [')'])) = .ok (.reference r) := by
  obtain ⟨c, after, hsrc, _, hread⟩ := (reference_of_lex h).2.2
  rw [Reference.toList_text] at hsrc
  obtain ⟨rfl, rfl⟩ := List.cons.inj hsrc
  have hread := hread [] trivial
  rwa [List.append_nil] at hread

/-- An operand of one lexeme is a condition under every limit but zero. -/
theorem parse_of_lex {condition : String} {e : Expr} (h : lex mode condition.toList = ⟨[t], .ok n⟩)
    (he : t.operand? = some e) (limit : Nat) :
    Expr.parse mode (limit + 1) condition = .ok e := by
  rw [Expr.parse, h]
  exact ofLexed_eq_ok_iff.mpr
    ⟨⟨n, rfl⟩, 0, Nat.succ_pos limit, (Derives.token he).to_operand.to_expr⟩

end OneLexeme

/-! ## §2  Quoted references -/

section Quoted

variable {n : Nat} {r : Reference} {t : Token} {s : String}

/-- Where a text in quotes is one token, reading ends at the second quote. -/
theorem quoteEnd_of_lex (h : lex .everything (inQuotes s).toList = ⟨[⟨.quoted s, 0⟩], .ok n⟩) :
    Lexeme.quoteEnd .everything .text 0 (s.toList ++ ['\'']) = .ok s.toList.length := by
  rw [toList_inQuotes] at h
  have hread : Lexeme.readQuoted .everything (s.toList ++ ['\'']) = .ok (.quoted s) :=
    (spells_of_lex (by decide) (by decide) h).2.1
  obtain ⟨k, hk, htext⟩ := map_eq_ok.mp hread
  have htake : (s.toList ++ ['\'']).take k = s.toList := by
    injection htext with htext
    have hlist := congrArg String.toList htext
    rwa [String.toList_ofList] at hlist
  rw [hk, Lexeme.eq_length_of_take htake]

/-- A reference that ends where its parenthesis is closed is one piece of a template. -/
theorem pieces_text
    (h : Reference.closing? (r.sigil = .items) false 0 0 (r.body.toList ++ [')']) =
      some r.body.toList.length) :
    Template.pieces r.text.toList = [.reference r] := by
  obtain ⟨sigil, body⟩ := r
  have hsigil : Sigil.ofChar? sigil.char = some sigil := by cases sigil <;> rfl
  have hstart : Reference.startingWith? sigil.char ('(' :: (body.toList ++ [')'])) =
      some ⟨sigil, body⟩ := by
    rw [Reference.startingWith?, hsigil, Option.bind_some, h, Option.map_some, List.take_left,
      String.ofList_toList]
  have htext := Reference.toList_text ⟨sigil, body⟩
  have hsrc : sigil.char :: '(' :: (body.toList ++ [')']) =
      (Reference.text ⟨sigil, body⟩).toList ++ [] := by
    rw [htext, List.append_nil]
  rw [htext, Template.pieces_reference hsrc hstart, Template.pieces_nil]

/-- A template that is one reference is filled like the reference. -/
theorem fill_text (h : Template.pieces r.text.toList = [.reference r]) :
    Template.fill r.text = r.fill := by
  rw [Template.fill, h]
  show Asking.ask (.lookup r.lookup) (fun answer => Asking.ok (String.ofList (Percent.unescape
    ((answer.getD "").toList.reverseAux []).reverse))) = _
  simp only [List.reverseAux_eq, List.append_nil, List.reverse_reverse]
  rfl

theorem isTemplate_quoted_text (hsigil : r.sigil ≠ .metadata) :
    (Lexeme.quoted r.text).isTemplate = true := by
  rw [Lexeme.isTemplate, Reference.toList_text]
  obtain ⟨sigil, body⟩ := r
  cases sigil with
  | property => rfl
  | items => rfl
  | metadata => exact absurd rfl hsigil

/-- What a reference means on its own: one lookup, and what is found with its escapes resolved. -/
theorem run_value_reference (state : BuildState) (k : Nat) (r : Reference) :
    (Expr.reference k r).value.run state = ([.lookup r.lookup],
      .ok (.text (String.ofList (Percent.unescape (Template.found state r.lookup))))) := rfl

/-- Where each of the two conditions is one token and the template one reference, both are accepted
and have the same value. -/
theorem parse_quoted_alike {k k' : Nat}
    (hbare : lex .everything r.text.toList = ⟨[⟨.reference r, 0⟩], .ok k⟩)
    (hquoted : lex .everything (inQuotes r.text).toList = ⟨[⟨.quoted r.text, 0⟩], .ok k'⟩)
    (hpieces : Template.pieces r.text.toList = [.reference r]) (limit : Nat) :
    ∃ e e', Expr.parse .everything (limit + 1) r.text = .ok e ∧
      Expr.parse .everything (limit + 1) (inQuotes r.text) = .ok e' ∧ e'.value = e.value ∧
      ∀ state, e.value.run state = ([.lookup r.lookup],
        .ok (.text (String.ofList (Percent.unescape (Template.found state r.lookup))))) := by
  refine ⟨.reference 0 r, .ofQuoted 0 r.text, ?_, ?_, ?_, fun state =>
    run_value_reference state 0 r⟩
  · exact parse_of_lex hbare rfl limit
  · exact parse_of_lex hquoted rfl limit
  · rw [value_ofQuoted, fill_text hpieces]
    rfl

end Quoted

/-! ## §3  Properties and item lists -/

section Alike

variable {mode : Mode} {condition s : String} {t : Token} {n : Nat}

theorem tokenize_eq_single_iff :
    tokenize mode condition = .ok [.token t, .endOfInput n] ↔
      lex mode condition.toList = ⟨[t], .ok n⟩ :=
  @tokenize_eq_ok_iff mode condition [t] n

/-- **A property reads the same in quotes.** If it is one token on its own and there are no quotes
in it, it is one token in quotes, a template, and either way the value is that of the property,
which is looked up once and has its escapes resolved once. -/
theorem quoted_property_reads_alike (hquote : '\'' ∉ s.toList)
    (hbare : tokenize .everything (Reference.text ⟨.property, s⟩) = .ok [.token t, .endOfInput n])
    (limit : Nat) :
    tokenize .everything (inQuotes (Reference.text ⟨.property, s⟩)) =
        .ok [.token ⟨.quoted (Reference.text ⟨.property, s⟩), 0⟩,
          .endOfInput (inQuotes (Reference.text ⟨.property, s⟩)).length] ∧
      (Lexeme.quoted (Reference.text ⟨.property, s⟩)).isTemplate = true ∧
      ∃ e e', Expr.parse .everything (limit + 1) (Reference.text ⟨.property, s⟩) = .ok e ∧
        Expr.parse .everything (limit + 1) (inQuotes (Reference.text ⟨.property, s⟩)) = .ok e' ∧
        e'.value = e.value ∧
        ∀ state, e.value.run state = ([.lookup (.property (String.ofList (trim s.toList)))],
          .ok (.text (String.ofList (Percent.unescape
            (Template.found state (.property (String.ofList (trim s.toList)))))))) := by
  have hlex := tokenize_eq_single_iff.mp hbare
  have hclosed : Reference.closing? false false 0 0 (s.toList ++ [')']) = some s.toList.length := by
    refine Lexeme.closing?_of_readProperty ?_
    rw [String.ofList_toList]
    exact readLexeme_of_lex hlex
  have hend : ∀ rest, Lexeme.quoteEnd .everything .text 0
      ((Reference.text ⟨.property, s⟩).toList ++ '\'' :: rest) =
        .ok (Reference.text ⟨.property, s⟩).toList.length := by
    intro rest
    have hplain : '\'' ∉ '$' :: '(' :: s.toList := by simp [hquote]
    have hread : Lexeme.quoteEnd .everything .text 0
        (('$' :: '(' :: s.toList) ++ ')' :: '\'' :: rest) = _ :=
      Lexeme.quoteEnd_property hplain
    rw [Reference.toList_text]
    simpa [Sigil.char, Nat.add_assoc] using hread
  have hquoted := lex_inQuotes hend
  obtain ⟨rfl, _⟩ := reference_of_lex hlex
  exact ⟨tokenize_eq_single_iff.mpr hquoted, isTemplate_quoted_text (by simp),
    parse_quoted_alike hlex hquoted (pieces_text hclosed) limit⟩

/-- Properties and items inside a property, and parentheses besides. -/
theorem quoted_property_reads_alike_nested :
    '\'' ∉ "a.b($(c), @(d))".toList ∧
      tokenize .everything "'$(a.b($(c), @(d)))'" =
        .ok [.token ⟨.quoted "$(a.b($(c), @(d)))", 0⟩, .endOfInput 20] ∧
      ∃ e e', Expr.parse .everything 1 "$(a.b($(c), @(d)))" = .ok e ∧
        Expr.parse .everything 1 "'$(a.b($(c), @(d)))'" = .ok e' ∧ e'.value = e.value := by
  have hquote : '\'' ∉ "a.b($(c), @(d))".toList := by decide
  have hbare : tokenize .everything (Reference.text ⟨.property, "a.b($(c), @(d))"⟩) =
      .ok [.token ⟨.reference ⟨.property, "a.b($(c), @(d))"⟩, 0⟩, .endOfInput 18] := by rfl
  obtain ⟨htokens, _, e, e', he, he', hvalue, _⟩ := quoted_property_reads_alike hquote hbare 0
  exact ⟨hquote, htokens, e, e', he, he', hvalue⟩

/-- **Whether an item list reads the same in quotes** is a matter of the quotes in it. If it is one
token on its own, it is one token in quotes exactly if all its quotes are hidden, and then either
way the value is that of the item list, which is looked up once. -/
theorem quoted_items_read_alike_iff
    (hbare : tokenize .everything (Reference.text ⟨.items, s⟩) = .ok [.token t, .endOfInput n])
    (limit : Nat) :
    (tokenize .everything (inQuotes (Reference.text ⟨.items, s⟩)) =
        .ok [.token ⟨.quoted (Reference.text ⟨.items, s⟩), 0⟩,
          .endOfInput (inQuotes (Reference.text ⟨.items, s⟩)).length] ↔
      Lexeme.QuotesHidden .list s.toList) ∧
      (Lexeme.quoted (Reference.text ⟨.items, s⟩)).isTemplate = true ∧
      (Lexeme.QuotesHidden .list s.toList →
        ∃ e e', Expr.parse .everything (limit + 1) (Reference.text ⟨.items, s⟩) = .ok e ∧
          Expr.parse .everything (limit + 1) (inQuotes (Reference.text ⟨.items, s⟩)) = .ok e' ∧
          e'.value = e.value ∧
          ∀ state, e.value.run state = ([.lookup (Reference.lookup ⟨.items, s⟩)],
            .ok (.text (String.ofList (Percent.unescape
              (Template.found state (Reference.lookup ⟨.items, s⟩))))))) := by
  have hlex := tokenize_eq_single_iff.mp hbare
  have hclosed : Reference.closing? true false 0 0 (s.toList ++ [')']) = some s.toList.length := by
    refine Lexeme.closing?_of_readItems ?_
    rw [String.ofList_toList]
    exact readLexeme_of_lex hlex
  -- behind the sigil and the parenthesis, reading is inside a list
  have hinside : ∀ rest, Lexeme.quoteEnd .everything .text 0
      ((Reference.text ⟨.items, s⟩).toList ++ '\'' :: rest) =
        Lexeme.quoteEnd .everything .list 2 (s.toList ++ ')' :: '\'' :: rest) := by
    intro rest
    rw [Reference.toList_text, List.cons_append, List.cons_append, List.append_assoc]
    rfl
  have hlength : (Reference.text ⟨.items, s⟩).toList.length = 2 + s.toList.length + 1 := by
    rw [Reference.toList_text]
    simp
    omega
  have hquoted (hhidden : Lexeme.QuotesHidden .list s.toList) :=
    lex_inQuotes (s := Reference.text ⟨.items, s⟩) fun rest => by
      rw [hinside, hlength]
      exact (Lexeme.quoteEnd_items_iff hclosed).mpr hhidden
  obtain ⟨rfl, _⟩ := reference_of_lex hlex
  refine ⟨⟨fun h => ?_, fun hhidden => tokenize_eq_single_iff.mpr (hquoted hhidden)⟩,
    isTemplate_quoted_text (by simp),
    fun hhidden => parse_quoted_alike hlex (hquoted hhidden) (pieces_text hclosed) limit⟩
  have hend := quoteEnd_of_lex (tokenize_eq_single_iff.mp h)
  rw [hinside, hlength] at hend
  exact (Lexeme.quoteEnd_items_iff hclosed).mp hend

/-- The quotes of a transform are hidden if no parenthesis is closed before them. -/
theorem quoted_items_read_alike_transform :
    tokenize .everything "'@(A->'%(B)')'" =
        .ok [.token ⟨.quoted "@(A->'%(B)')", 0⟩, .endOfInput 14] ∧
      ∃ e e', Expr.parse .everything 1 "@(A->'%(B)')" = .ok e ∧
        Expr.parse .everything 1 "'@(A->'%(B)')'" = .ok e' ∧ e'.value = e.value := by
  have hbare : tokenize .everything (Reference.text ⟨.items, "A->'%(B)'"⟩) =
      .ok [.token ⟨.reference ⟨.items, "A->'%(B)'"⟩, 0⟩, .endOfInput 12] := by rfl
  have hhidden : Lexeme.QuotesHidden .list "A->'%(B)'".toList := by decide
  obtain ⟨htokens, _, hvalues⟩ := quoted_items_read_alike_iff hbare 0
  obtain ⟨e, e', he, he', hvalue, _⟩ := hvalues hhidden
  exact ⟨htokens.mpr hhidden, e, e', he, he', hvalue⟩

/-- Behind a parenthesis that is closed, the quotes of a transform are not hidden: the list is one
token on its own, and falls apart in quotes. -/
theorem quoted_items_fall_apart :
    ¬Lexeme.QuotesHidden .list "a->b()->'c'".toList ∧
      tokenize .everything "@(a->b()->'c')" =
        .ok [.token ⟨.reference ⟨.items, "a->b()->'c'"⟩, 0⟩, .endOfInput 14] ∧
      tokenize .everything "'@(a->b()->'c')'" =
        .ok [.token ⟨.quoted "@(a->b()->", 0⟩, .token ⟨.word "c", 12⟩, .token ⟨.quoted ")", 13⟩,
          .endOfInput 16] :=
  ⟨by decide, rfl, rfl⟩

end Alike

end BuildCondition
