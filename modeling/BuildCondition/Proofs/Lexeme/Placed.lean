import BuildCondition.Proofs.Lexeme.Places
import BuildCondition.Proofs.Lexeme.Spelling

/-!
# Lexemes by places

A lexeme can be read from a text that is kept whole: its end is looked for by places, and what is
told of it is a slice of the text. Reading goes on at a place as well. This comes to the same as
reading what is left of the text, so that every place and every slice is in range (§1–§6). A scanner
can keep the whole text in the same way (§7).
-/

namespace BuildCondition

open BuildCondition.Text

namespace Places

variable {text cs rest : List Char} {start stop k : Nat} {c : Char} {mode : Mode}

/-! ## §1  What is read -/

/-- The place where reading goes on behind a lexeme. -/
def behind (text : List Char) (start : Nat) (l : Lexeme) : Nat :=
  match l with
  | .functionName _ => skipWhile text isBlank (start + l.width)
  | _ => start + l.width

/-- What reading a lexeme that starts at a place comes to. -/
def outcome (text : List Char) (start : Nat) : Except Fault Lexeme → Outcome
  | .ok l => (behind text start l, .ok (Terminal.token ⟨l, start⟩).record)
  | .error fault => (start + fault.consumed, .error (fault.failure start))

theorem lt_of_drop_eq_append {inside : List Char} (h : text.drop start = inside ++ c :: rest) :
    start + inside.length < text.length :=
  lt_of_drop_eq_cons (drop_add_of_drop h)

theorem head?_eq_of_drop (h : text.drop start = cs) : text[start]? = cs.head? := by
  rw [← h, List.head?_drop]

/-- A lexeme without quotes about it that reading goes on right behind. -/
def isPlain : Lexeme → Bool
  | .quoted _ | .functionName _ => false
  | _ => true

/-- A token of a plain lexeme is a slice of the text. -/
theorem tokenBetween_eq {l : Lexeme} {src : List Char} (h : text.drop start = src ++ rest)
    (hstart : start ≤ text.length) (hsrc : l.source.toList = src)
    (hplain : isPlain l = true) :
    tokenBetween text l.kind start (start + src.length) = some (outcome text start (.ok l)) := by
  have hquoted : l.isQuoted = false := by
    cases l with
    | quoted s => cases hplain
    | _ => rfl
  have htemplate : l.isTemplate = false := by
    cases l with
    | quoted s => cases hplain
    | _ => rfl
  have hbehind : behind text start l = start + l.width := by
    cases l with
    | functionName s => cases hplain
    | _ => rfl
  have hwidth : l.width = src.length := by
    rw [Lexeme.width, ← String.length_toList, hsrc]
  have hwritten : String.ofList src = l.text := by
    rw [← hsrc, String.ofList_toList, Lexeme.source, hquoted]
    rfl
  rw [tokenBetween, slice?_eq h hstart, outcome, hbehind, hwidth, Terminal.record]
  simp [Terminal.kind, Terminal.text, Terminal.offset, Terminal.isQuoted, Terminal.isTemplate,
    hwritten, hquoted, htemplate]

/-- A token of one character. -/
theorem tokenBetween_single (l : Lexeme) (h : text.drop start = c :: cs)
    (hsrc : l.source.toList = [c]) (hplain : isPlain l = true) :
    tokenBetween text l.kind start (start + 1) = some (outcome text start (.ok l)) := by
  have hwritten : text.drop start = [c] ++ cs := h
  exact tokenBetween_eq hwritten (Nat.le_of_lt (lt_of_drop_eq_cons h)) hsrc hplain

/-! ## §2  References and quoted texts -/

/-- A lexeme that starts with a dollar sign. -/
def property (text : List Char) (start : Nat) : Option Outcome :=
  if text[start + 1]? = some '(' then do
    match ← propertyEnd text [Level.fresh] (start + 1) with
    | .error blank =>
        let c ← text[blank]?
        some (start, .error (Failure.foundAt .blankInProperty (blank + 1) (String.singleton c)))
    | .ok close =>
        if text.length ≤ close then
          some (start, .error (Failure.foundAt .propertyNotClosed (start + 1) Terminal.endName))
        else tokenBetween text "Property" start (close + 1)
  else
    some (start,
      .error (Failure.foundAt .propertyNotOpened (start + 1) (describeAt text (start + 1))))

/-- A lexeme that starts with an at sign. -/
def items (text : List Char) (mode : Mode) (start : Nat) : Option Outcome :=
  if mode = .propertiesOnly then
    some (start, .error (Failure.bareAt .itemsNotAllowed (start + 1)))
  else if text[start + 1]? = some '(' then do
    let (inQuote, close) ← itemsEnd text false 0 (start + 2)
    if text.length ≤ close then
      let cause := if inQuote then .itemsQuoteNotClosed else .itemsNotClosed
      some (start, .error (Failure.foundAt cause (start + 1) Terminal.endName))
    else tokenBetween text "ItemList" start (close + 1)
  else
    some (start, .error (Failure.foundAt .itemsNotOpened (start + 1) (describeAt text (start + 1))))

/-- A lexeme that starts with a percent sign. -/
def metadata (text : List Char) (mode : Mode) (start : Nat) : Option Outcome :=
  if text[start + 1]? = some '(' then
    if mode = .propertiesOnly then
      some (start, .error (Failure.bareAt .metadataNotAllowed (start + 1)))
    else do
      let close ← seek text ')' (start + 2)
      if text.length ≤ close then
        some (start, .error (Failure.foundAt .metadataNotClosed (start + 1) Terminal.endName))
      else tokenBetween text "ItemMetadata" start (close + 1)
  else some (start, .error (Failure.foundAt .unexpectedCharacter (start + 1) "%"))

/-- A lexeme that starts with a quote. -/
def quoted (text : List Char) (mode : Mode) (start : Nat) : Option Outcome := do
  match ← quotedEnd text mode false (start + 1) with
  | .error f => some (start, .error f)
  | .ok (close, marked) =>
      if text.length ≤ close then
        some (start, .error (Failure.bareAt .stringNotClosed (start + 1)))
      else
        let inside ← slice? text (start + 1) close
        some (close + 1, .ok ⟨"String", String.ofList inside, start, true, marked⟩)

/-- A reference whose parenthesis is in the text is a slice of it up to there, whatever is done if
the parenthesis is missing. -/
theorem closed_reference (l : Sigil) {inside : List Char} (missing : Option Outcome)
    (h : text.drop start = l.char :: '(' :: (inside ++ ')' :: rest)) :
    (if text.length ≤ start + (inside.length + 2) then missing
      else tokenBetween text (Lexeme.reference ⟨l, String.ofList inside⟩).kind start
        (start + (inside.length + 2) + 1)) =
      some (outcome text start (.ok (.reference ⟨l, String.ofList inside⟩))) := by
  have hsrc : text.drop start = (l.char :: '(' :: (inside ++ [')'])) ++ rest := by
    rw [h]
    simp
  have htoken := tokenBetween_eq hsrc (Nat.le_of_lt (lt_of_drop_eq_cons h))
    (Lexeme.toList_source_reference l inside) rfl
  simp only [List.length_cons, List.length_append, List.length_nil, Nat.zero_add] at htoken
  have hclose : text.drop start = (l.char :: '(' :: inside) ++ ')' :: rest := h
  have hlt : start + (inside.length + 2) < text.length := lt_of_drop_eq_append hclose
  rw [if_neg (Nat.not_le.mpr hlt)]
  exact htoken

theorem referenceUpTo_length (l : Sigil) (inside rest : List Char) :
    Lexeme.referenceUpTo l inside.length (inside ++ rest) =
      .reference ⟨l, String.ofList inside⟩ := by
  rw [Lexeme.referenceUpTo, List.take_left]

theorem property_eq (h : text.drop start = '$' :: cs) :
    property text start = some (outcome text start (Lexeme.readProperty cs)) := by
  have hrest := (of_drop_eq_cons h).2
  have hnext := head?_eq_of_drop hrest
  by_cases hopen : cs.head? = some '('
  · obtain ⟨body, rfl⟩ := List.head?_eq_some_iff.mp hopen
    obtain ⟨r, hr, hagrees⟩ := exists_propertyEnd (k := 1) hrest (.inr rfl) (List.forall_mem_nil _)
      (List.forall_mem_singleton.mpr (seesBlank_fresh text start))
    have hwalk : propertyEnd text [Level.fresh] (start + 1) = some r := hr
    rw [property, hnext, if_pos hopen, hwalk, Lexeme.readProperty]
    generalize hend : Lexeme.propertyEnd [] Lexeme.Level.fresh 1 ('(' :: body) = e at hagrees
    cases hagrees with
    | missing => simp [outcome, Fault.failure]
    | stray hc => simp [hc, outcome, Fault.failure]
    | closed m =>
        obtain ⟨inside, rest, heq, rfl, _⟩ := Lexeme.propertyEnd_eq_closed hend
        cases inside with
        | nil => cases heq
        | cons d inside =>
            obtain ⟨rfl, hbody⟩ := List.cons.inj heq
            obtain rfl : body = inside ++ ')' :: rest := hbody
            have hplace : 1 + ('(' :: inside).length = inside.length + 2 :=
              Nat.add_comm 1 (inside.length + 1)
            have hbody : inside.length + 2 - 2 = inside.length := rfl
            simp only [hplace, hbody, referenceUpTo_length]
            exact closed_reference .property _ h
  · rw [property, hnext, if_neg hopen, describeAt_eq hrest]
    unfold Lexeme.readProperty
    split
    · exact absurd rfl hopen
    · rfl

theorem items_eq (h : text.drop start = '@' :: cs) :
    items text mode start = some (outcome text start (Lexeme.readItems mode cs)) := by
  have hrest := (of_drop_eq_cons h).2
  have hnext := head?_eq_of_drop hrest
  by_cases hmode : mode = .propertiesOnly
  · rw [items, if_pos hmode, Lexeme.readItems.eq_def, if_pos hmode]
    rfl
  by_cases hopen : cs.head? = some '('
  · obtain ⟨body, rfl⟩ := List.head?_eq_some_iff.mp hopen
    have hbody : text.drop (start + 2) = body := (of_drop_eq_cons hrest).2
    have hwalk : itemsEnd text false 0 (start + 2 + 0) = _ :=
      itemsEnd_eq hbody (lt_of_drop_eq_cons hrest)
    rw [Nat.add_zero] at hwalk
    rw [items, if_neg hmode, hnext, if_pos hopen, hwalk, Lexeme.readItems, if_neg hmode]
    cases hclose : Reference.closing? true false 0 0 body with
    | none =>
        refine (if_pos (Nat.le_refl text.length)).trans ?_
        by_cases hodd : body.count '\'' % 2 = 1 <;> simp [hodd, outcome, Fault.failure]
    | some m =>
        obtain ⟨inside, rest, rfl, rfl, _⟩ := Reference.closing?_eq_some hclose
        have hplace : start + 2 + inside.length = start + (inside.length + 2) := by
          omega
        simp only [Nat.zero_add, hplace, referenceUpTo_length]
        exact closed_reference .items _ h
  · rw [items, if_neg hmode, hnext, if_neg hopen, describeAt_eq hrest]
    unfold Lexeme.readItems
    rw [if_neg hmode]
    split
    · exact absurd rfl hopen
    · rfl

theorem metadata_eq (h : text.drop start = '%' :: cs) :
    metadata text mode start = some (outcome text start (Lexeme.readMetadata mode cs)) := by
  have hrest := (of_drop_eq_cons h).2
  have hnext := head?_eq_of_drop hrest
  by_cases hopen : cs.head? = some '('
  · obtain ⟨body, rfl⟩ := List.head?_eq_some_iff.mp hopen
    rw [metadata, hnext, if_pos hopen, Lexeme.readMetadata]
    by_cases hmode : mode = .propertiesOnly
    · rw [if_pos hmode, if_pos hmode]
      rfl
    rw [if_neg hmode, if_neg hmode, seek_eq ')' (of_drop_eq_cons hrest).2]
    cases hcut : cutAt? ')' body with
    | none =>
        have hlength := congrArg List.length hrest
        rw [List.length_drop, List.length_cons] at hlength
        rw [takeWhile_of_cutAt? hcut]
        exact if_pos (by omega)
    | some parts =>
        obtain ⟨inside, rest⟩ := parts
        obtain ⟨rfl, hinside⟩ := cutAt?_eq_some hcut
        have hseek : (inside ++ ')' :: rest).takeWhile (· != ')') = inside :=
          takeWhile_append_stops (fun c hc => bne_iff_ne.mpr (hinside c hc)) (stops_cons rfl)
        have hplace : start + 1 + 1 + inside.length = start + (inside.length + 2) := by
          omega
        rw [hseek, hplace]
        exact closed_reference .metadata _ h
  · rw [metadata, hnext, if_neg hopen]
    unfold Lexeme.readMetadata
    split
    · exact absurd rfl hopen
    · rfl

theorem quoted_eq (h : text.drop start = '\'' :: cs) :
    quoted text mode start = some (outcome text start (Lexeme.readQuoted mode cs)) := by
  have hrest := (of_drop_eq_cons h).2
  obtain ⟨r, hr, hagrees⟩ :=
    @exists_quotedEnd text (start + 1) mode false (start + 1) (Nat.le_refl _)
  rw [Nat.sub_self, hrest, Lexeme.markedEnd_eq fun htext => absurd rfl htext] at hagrees
  rw [quoted, hr, Lexeme.readQuoted]
  cases hend : Lexeme.quoteEnd mode .text 0 cs with
  | error fault =>
      rw [hend] at hagrees
      cases hagrees with
      | missing hi => exact if_pos hi
      | refused cause k =>
          show some (start, Except.error (Failure.bareAt cause (start + 1 + k))) =
            some (start, Except.error (Failure.bareAt cause (start + k + 1)))
          rw [Nat.add_right_comm]
  | ok m =>
      rw [hend] at hagrees
      obtain ⟨inside, rest, rfl, rfl, _⟩ := Lexeme.quoteEnd_eq_ok hend
      cases hagrees
      rw [Nat.zero_add, Nat.sub_zero, List.take_left, Bool.false_or]
      have hlt := lt_of_drop_eq_append hrest
      have hbehind : start + 1 + inside.length + 1 =
          start + (Lexeme.quoted (String.ofList inside)).width := by
        rw [Lexeme.width, ← String.length_toList, Lexeme.toList_source_quoted]
        simp only [List.length_cons, List.length_append, List.length_nil]
        omega
      refine (if_neg (Nat.not_le.mpr hlt)).trans ?_
      rw [slice?_eq hrest (lt_of_drop_eq_cons h), hbehind]
      show _ = some (outcome text start (.ok (.quoted (String.ofList (List.take _ _)))))
      rw [List.take_left]
      simp [outcome, behind, Terminal.record, Terminal.kind, Terminal.text, Terminal.offset,
        Terminal.isQuoted, Terminal.isTemplate, Lexeme.kind, Lexeme.text, Lexeme.isQuoted,
        Lexeme.isTemplate]

/-! ## §3  Operators -/

/-- An operator of two characters if the second is an equals sign, and of one if not. -/
def withEquals (text : List Char) (long short : String) (start : Nat) : Option Outcome :=
  if text[start + 1]? = some '=' then tokenBetween text long start (start + 2)
  else tokenBetween text short start (start + 1)

def equals (text : List Char) (start : Nat) : Option Outcome :=
  if text[start + 1]? = some '=' then
    some (start + 2, .ok ⟨"EqualTo", "==", start, false, false⟩)
  else some (start, .error (Failure.foundAt .loneEquals (start + 2) (describeAt text (start + 1))))

theorem withEquals_eq (long short : Lexeme) (h : text.drop start = c :: cs)
    (hlong : long.source.toList = [c, '=']) (hshort : short.source.toList = [c])
    (hplain : isPlain long = true ∧ isPlain short = true) :
    withEquals text long.kind short.kind start =
      some (outcome text start (Lexeme.withEquals cs long short)) := by
  rw [withEquals, head?_eq_of_drop (of_drop_eq_cons h).2, Lexeme.withEquals]
  by_cases hequals : cs.head? = some '='
  · obtain ⟨more, rfl⟩ := List.head?_eq_some_iff.mp hequals
    have hwritten : text.drop start = [c, '='] ++ more := h
    rw [if_pos hequals, if_pos hequals]
    exact tokenBetween_eq hwritten (Nat.le_of_lt (lt_of_drop_eq_cons h)) hlong hplain.1
  · rw [if_neg hequals, if_neg hequals]
    exact tokenBetween_single short h hshort hplain.2

theorem equals_eq (h : text.drop start = '=' :: cs) :
    equals text start = some (outcome text start (Lexeme.readLexeme mode '=' cs)) := by
  have hrest := (of_drop_eq_cons h).2
  rw [equals, head?_eq_of_drop hrest, Lexeme.readLexeme_equals]
  by_cases hequals : cs.head? = some '='
  · rw [if_pos hequals, if_pos hequals]
    rfl
  · rw [if_neg hequals, if_neg hequals, describeAt_eq hrest]
    rfl

/-! ## §4  Numerals -/

/-- A numeral up to a place, if what stands there does not clash with it. -/
def numeralBetween (text : List Char) (start stop : Nat) : Option Outcome :=
  match text[stop]? with
  | some c =>
      if Lexeme.clashesWithNumeral c then
        some (stop,
          .error (Failure.foundAt .unexpectedCharacter (stop + 1) (String.singleton c)))
      else tokenBetween text "Numeric" start stop
  | none => tokenBetween text "Numeric" start stop

def hexNumeral (text : List Char) (start : Nat) : Option Outcome :=
  let stop := skipWhile text isHexDigit (start + 2)
  if stop = start + 2 then
    some (stop, .error (Failure.foundAt .unexpectedCharacter (stop + 1) (describeAt text stop)))
  else numeralBetween text start stop

def decimalNumeral (text : List Char) (start : Nat) : Option Outcome :=
  let whole := if text[start]? = some '+' ∨ text[start]? = some '-' then start + 1 else start
  let point := skipWhile text Char.isDigit whole
  let fraction := if text[point]? = some '.' then point + 1 else point
  let beyond := if text[point]? = some '.' then skipWhile text Char.isDigit fraction else fraction
  if (point - whole) + (beyond - fraction) = 0 then do
    let c ← text[start]?
    some (beyond,
      .error (Failure.foundAt .unexpectedCharacter (start + 1) (String.singleton c)))
  else numeralBetween text start (furtherEnd text beyond)

/-- A lexeme that starts with a digit, a sign or a point. -/
def numeral (text : List Char) (start : Nat) : Option Outcome :=
  if text[start]? = some '0' ∧ (text[start + 1]? = some 'x' ∨ text[start + 1]? = some 'X') ∧
      (text[start + 2]?).isSome then hexNumeral text start
  else decimalNumeral text start

/-- The numeral of some characters that a text starts with, unless it clashes with what is behind
them. -/
def numeralOf (cs chars : List Char) : Except Fault Lexeme :=
  match cs.drop chars.length with
  | [] => .ok (.numeral (String.ofList chars))
  | c :: _ =>
      if Lexeme.clashesWithNumeral c then
        .error ⟨.unexpectedCharacter, some (String.singleton c), chars.length, chars.length⟩
      else .ok (.numeral (String.ofList chars))

theorem readNumeral_eq (cs : List Char) :
    Lexeme.readNumeral cs = (Lexeme.numeralChars cs).bind (numeralOf cs) := rfl

theorem numeralBetween_eq {chars : List Char} (h : text.drop start = chars ++ rest)
    (hstart : start ≤ text.length) :
    numeralBetween text start (start + chars.length) =
      some (outcome text start (numeralOf (chars ++ rest) chars)) := by
  have htoken := tokenBetween_eq (l := .numeral (String.ofList chars)) h hstart
    String.toList_ofList rfl
  rw [numeralBetween, head?_eq_of_drop (drop_add_of_drop h), numeralOf, List.drop_left]
  cases rest with
  | nil => exact htoken
  | cons c rest =>
      show (if _ then _ else _) = some (outcome text start (if _ then _ else _))
      split
      · rfl
      · exact htoken

theorem hexNumeral_eq {x : Char} (h : text.drop start = '0' :: x :: cs) :
    hexNumeral text start = some (outcome text start
      ((Lexeme.hexNumeral x cs).bind (numeralOf ('0' :: x :: cs)))) := by
  have hdigits : text.drop (start + 2) = cs := (of_drop_eq_cons (of_drop_eq_cons h).2).2
  rw [hexNumeral, skipWhile_eq isHexDigit hdigits]
  cases hread : Lexeme.hexNumeral x cs with
  | error fault =>
      unfold Lexeme.hexNumeral at hread
      simp only [] at hread
      split at hread
      · rename_i hnone
        cases hread
        rw [List.isEmpty_iff.mp hnone, List.length_nil, Nat.add_zero, if_pos rfl,
          describeAt_eq hdigits]
        rfl
      · cases hread
  | ok chars =>
      obtain ⟨hne, rfl⟩ := Lexeme.hexNumeral_eq_ok hread
      have hpos := List.length_pos_iff.mpr hne
      have hsplit : '0' :: x :: cs =
          '0' :: x :: cs.takeWhile isHexDigit ++ cs.dropWhile isHexDigit := by
        rw [List.cons_append, List.cons_append, List.takeWhile_append_dropWhile]
      have hplace : start + 2 + (cs.takeWhile isHexDigit).length =
          start + ('0' :: x :: cs.takeWhile isHexDigit).length := by
        simp only [List.length_cons]
        omega
      have hnumeral := numeralBetween_eq (hsplit ▸ h) (Nat.le_of_lt (lt_of_drop_eq_cons h))
      rw [← hsplit] at hnumeral
      rw [if_neg (by omega), hplace]
      exact hnumeral

/-- The further parts of a version are runs of digits with a point in front of each. -/
theorem furtherParts_digits (cs : List Char) :
    Lexeme.furtherParts cs =
      cs.takeWhile Char.isDigit ++ Lexeme.furtherParts (cs.dropWhile Char.isDigit) := by
  induction cs with
  | nil => rfl
  | cons c cs ih =>
      cases hc : c.isDigit with
      | true =>
          rw [Lexeme.furtherParts_cons, hc, Bool.true_or, if_pos rfl, ih,
            List.takeWhile_cons_of_pos hc, List.dropWhile_cons_of_pos hc]
          rfl
      | false =>
          have hno := ne_true_of_eq_false hc
          rw [List.takeWhile_cons_of_neg hno, List.dropWhile_cons_of_neg hno]
          rfl

/-- The walk goes on at a point with a digit behind it, and from there to the end of the digits. -/
theorem furtherEnd_eq (i : Nat) : ∀ {cs : List Char}, text.drop i = cs → Stops Char.isDigit cs →
    furtherEnd text i = i + (Lexeme.furtherParts cs).length := by
  fun_induction furtherEnd text i with
  | case1 i hpoint ih =>
      intro cs h _
      rw [head?_eq_of_drop h] at hpoint
      obtain ⟨more, rfl⟩ := List.head?_eq_some_iff.mp hpoint.1
      have hmore := (of_drop_eq_cons h).2
      rw [head?_eq_of_drop hmore] at hpoint
      have hfollows : Lexeme.digitFollows more = true := by
        cases more with
        | nil => cases hpoint.2
        | cons d ds => exact hpoint.2
      rw [ih (drop_skipWhile Char.isDigit hmore) stops_dropWhile, skipWhile_eq _ hmore,
        Lexeme.furtherParts_cons, if_pos (by simp [hfollows]), furtherParts_digits more,
        List.length_cons, List.length_append]
      omega
  | case2 i hpoint =>
      intro cs h hstops
      cases cs with
      | nil => rfl
      | cons c cs =>
          obtain ⟨hc, hrest⟩ := of_drop_eq_cons h
          rw [hc, head?_eq_of_drop hrest, Option.some.injEq] at hpoint
          have hnone : ¬(c.isDigit || (c == '.' && Lexeme.digitFollows cs)) = true := by
            rw [hstops.head, Bool.false_or, Bool.and_eq_true, beq_iff_eq]
            cases cs with
            | nil => exact fun hboth => Bool.false_ne_true hboth.2
            | cons d ds => exact hpoint
          rw [Lexeme.furtherParts_cons, if_neg hnone]
          rfl

theorem signEnd_eq (h : text.drop start = cs) :
    (if text[start]? = some '+' ∨ text[start]? = some '-' then start + 1 else start) =
      start + (Lexeme.signOf cs).length := by
  rw [head?_eq_of_drop h]
  fun_cases Lexeme.signOf cs with
  | case1 | case2 => simp
  | case3 _ hplus hminus =>
      refine if_neg ?_
      rintro (hhead | hhead)
      · obtain ⟨more, rfl⟩ := List.head?_eq_some_iff.mp hhead
        exact hplus more rfl
      · obtain ⟨more, rfl⟩ := List.head?_eq_some_iff.mp hhead
        exact hminus more rfl

theorem pointEnd_eq (h : text.drop start = cs) :
    (if text[start]? = some '.' then start + 1 else start) =
      start + (Lexeme.pointOf cs).length := by
  rw [head?_eq_of_drop h]
  fun_cases Lexeme.pointOf cs with
  | case1 => simp
  | case2 _ hpoint =>
      refine if_neg fun hhead => ?_
      obtain ⟨more, rfl⟩ := List.head?_eq_some_iff.mp hhead
      exact hpoint more rfl

theorem fractionEnd_eq (h : text.drop start = cs) (hstops : Stops Char.isDigit cs) :
    (if text[start]? = some '.' then
        skipWhile text Char.isDigit (start + (Lexeme.pointOf cs).length)
      else start + (Lexeme.pointOf cs).length) =
      start + (Lexeme.pointOf cs).length + (Lexeme.fractionOf cs).length := by
  rw [head?_eq_of_drop h]
  by_cases hpoint : cs.head? = some '.'
  · rw [if_pos hpoint, skipWhile_eq Char.isDigit (by rw [← List.drop_drop, h]),
      Lexeme.fractionOf]
  · rw [if_neg hpoint, (Lexeme.pointedPart_of_stops hstops hpoint).2]
    rfl

theorem pointedEnd_eq (h : text.drop start = cs) :
    furtherEnd text (start + (Lexeme.pointOf cs).length + (Lexeme.fractionOf cs).length) =
      start + (Lexeme.pointedPart cs).length := by
  have hpoint : text.drop (start + (Lexeme.pointOf cs).length) =
      cs.drop (Lexeme.pointOf cs).length := by
    rw [← List.drop_drop, h]
  have hbeyond := furtherEnd_eq _ (drop_skipWhile Char.isDigit hpoint) stops_dropWhile
  rw [skipWhile_eq Char.isDigit hpoint] at hbeyond
  rw [Lexeme.fractionOf, hbeyond, Lexeme.pointedPart, List.length_append, List.length_append,
    Lexeme.fractionOf, Nat.add_assoc, Nat.add_assoc]

theorem decimalNumeral_of_no_digits (hwhole : (Lexeme.unsigned cs).takeWhile Char.isDigit = [])
    (hfraction : Lexeme.fractionOf ((Lexeme.unsigned cs).dropWhile Char.isDigit) = []) :
    Lexeme.decimalNumeral cs = .error ⟨.unexpectedCharacter, some (describeHead cs), 0,
      (Lexeme.signOf cs).length +
        (Lexeme.pointOf ((Lexeme.unsigned cs).dropWhile Char.isDigit)).length⟩ := by
  unfold Lexeme.unsigned at hwhole hfraction
  unfold Lexeme.fractionOf at hfraction
  unfold Lexeme.decimalNumeral
  simp only [hwhole, hfraction, List.isEmpty_nil, Bool.and_self, if_true]
  rfl

theorem decimalNumeral_eq (h : text.drop start = c :: cs) :
    decimalNumeral text start = some (outcome text start
      ((Lexeme.decimalNumeral (c :: cs)).bind (numeralOf (c :: cs)))) := by
  have hstart := Nat.le_of_lt (lt_of_drop_eq_cons h)
  have hc := (of_drop_eq_cons h).1
  have hhead : describeHead (c :: cs) = String.singleton c := rfl
  generalize c :: cs = written at h hhead
  have hwhole : text.drop (start + (Lexeme.signOf written).length) = Lexeme.unsigned written := by
    rw [← List.drop_drop, h]
    rfl
  have hpoint := drop_skipWhile Char.isDigit hwhole
  -- behind the sign, the digits, the point, the fraction and the further parts, in this order
  simp only [decimalNumeral, signEnd_eq h, pointEnd_eq hpoint,
    fractionEnd_eq hpoint stops_dropWhile, pointedEnd_eq hpoint]
  rw [skipWhile_eq Char.isDigit hwhole]
  simp only [Nat.add_sub_cancel_left]
  by_cases hnone : (Lexeme.unsigned written).takeWhile Char.isDigit = [] ∧
      Lexeme.fractionOf ((Lexeme.unsigned written).dropWhile Char.isDigit) = []
  · rw [decimalNumeral_of_no_digits hnone.1 hnone.2, hnone.1, hnone.2, hc, hhead]
    simp [outcome, Except.bind, Fault.failure, Nat.add_assoc]
  · have hdigits := Classical.not_and_iff_not_or_not.mp hnone
    have hread := Lexeme.decimalNumeral_eq_ok.mpr ⟨hdigits, rfl⟩
    have hlength : ¬((Lexeme.unsigned written).takeWhile Char.isDigit).length +
        (Lexeme.fractionOf ((Lexeme.unsigned written).dropWhile Char.isDigit)).length = 0 := by
      rwa [Nat.add_eq_zero_iff, List.length_eq_zero_iff, List.length_eq_zero_iff]
    obtain ⟨rest, hrest⟩ := Lexeme.exists_eq_append_of_decimalNumeral hread
    have hnumeral := numeralBetween_eq (h.trans hrest) hstart
    rw [← hrest] at hnumeral
    rw [hread, if_neg hlength]
    simp only [List.length_append, ← Nat.add_assoc] at hnumeral ⊢
    exact hnumeral

theorem numeral_eq (h : text.drop start = c :: cs) :
    numeral text start = some (outcome text start (Lexeme.readNumeral (c :: cs))) := by
  rw [numeral, readNumeral_eq]
  by_cases hhex : Lexeme.StartsHex (c :: cs)
  · obtain ⟨x, d, more, heq, hx⟩ := hhex
    rw [heq] at h ⊢
    have hrest := (of_drop_eq_cons h).2
    rw [head?_eq_of_drop h, head?_eq_of_drop hrest, head?_eq_of_drop (of_drop_eq_cons hrest).2,
      if_pos ⟨rfl, hx.imp (congrArg some) (congrArg some), rfl⟩, hexNumeral_eq h,
      Lexeme.numeralChars, if_pos hx]
  · rw [Lexeme.numeralChars_of_not_startsHex hhex, ← decimalNumeral_eq h]
    refine if_neg ?_
    -- a zero, an x and one character more are all that it takes
    rintro ⟨hzero, hx, hbehind⟩
    have hrest := (of_drop_eq_cons h).2
    rw [head?_eq_of_drop hrest] at hx
    obtain rfl : c = '0' := Option.some.inj ((head?_eq_of_drop h).symm.trans hzero)
    cases cs with
    | nil => simp at hx
    | cons x more =>
        rw [head?_eq_of_drop (of_drop_eq_cons hrest).2] at hbehind
        obtain ⟨d, hd⟩ := Option.isSome_iff_exists.mp hbehind
        obtain ⟨more, rfl⟩ := List.head?_eq_some_iff.mp hd
        exact hhex ⟨x, d, more, rfl, hx.imp Option.some.inj Option.some.inj⟩

/-! ## §5  Words -/

/-- A lexeme that starts with a letter or an underscore. Behind the name of a function, reading goes
on at the parenthesis. -/
def word (text : List Char) (start : Nat) : Option Outcome := do
  let stop := skipWhile text isWordChar start
  let chars ← slice? text start stop
  match Lexeme.connectiveOf? chars with
  | some .and => some (stop, .ok ⟨"And", "and", start, false, false⟩)
  | some .or => some (stop, .ok ⟨"Or", "or", start, false, false⟩)
  | none =>
      let next := skipWhile text isBlank stop
      if text[next]? = some '(' then
        some (next, .ok ⟨"Function", String.ofList chars, start, false, false⟩)
      else some (stop, .ok ⟨"String", String.ofList chars, start, false, false⟩)

theorem word_eq (h : text.drop start = cs) (hstart : start ≤ text.length) :
    word text start = some (outcome text start (.ok (Lexeme.readWord cs))) := by
  have hsplit : text.drop start = cs.takeWhile isWordChar ++ cs.dropWhile isWordChar :=
    h.trans List.takeWhile_append_dropWhile.symm
  have hbehind := drop_skipWhile isWordChar h
  rw [skipWhile_eq isWordChar h] at hbehind
  rw [word, skipWhile_eq isWordChar h, slice?_eq hsplit hstart]
  unfold Lexeme.readWord
  simp only [Option.bind_eq_bind, Option.bind_some,
    head?_eq_of_drop (drop_skipWhile isBlank hbehind)]
  cases hop : Lexeme.connectiveOf? (cs.takeWhile isWordChar) with
  | some op =>
      have hlength : (cs.takeWhile isWordChar).length = (Lexeme.connective op).width :=
        Lexeme.SpelledAs.length_eq (l := .connective op) hop
      rw [hlength]
      cases op <;> rfl
  | none =>
      have hlength : (String.ofList (cs.takeWhile isWordChar)).length =
          (cs.takeWhile isWordChar).length := String.length_ofList
      have hopens : ((cs.dropWhile isWordChar).dropWhile isBlank).head? =
          (trimStart (cs.dropWhile isWordChar)).head? := rfl
      simp only [hopens, ← hlength]
      split_ifs <;> rfl

/-! ## §6  All lexemes -/

/-- The lexeme at a place, where `c` stands. -/
def lexeme (text : List Char) (mode : Mode) (c : Char) (start : Nat) : Option Outcome :=
  if c = ',' then tokenBetween text "Comma" start (start + 1)
  else if c = '(' then tokenBetween text "LeftParen" start (start + 1)
  else if c = ')' then tokenBetween text "RightParen" start (start + 1)
  else if c = '$' then property text start
  else if c = '@' then items text mode start
  else if c = '%' then metadata text mode start
  else if c = '\'' then quoted text mode start
  else if c = '!' then withEquals text "NotEqualTo" "Not" start
  else if c = '<' then withEquals text "LessThanOrEqualTo" "LessThan" start
  else if c = '>' then withEquals text "GreaterThanOrEqualTo" "GreaterThan" start
  else if c = '=' then equals text start
  else if Lexeme.startsNumeral c then numeral text start
  else if startsWord c then word text start
  else
    some (start,
      .error (Failure.foundAt .unexpectedCharacter (start + 1) (String.singleton c)))

/-- **Reading by places is reading what is left.** Wherever a lexeme starts, all places and slices
that are reached for are in range, and the same comes of it. -/
theorem lexeme_eq (h : text.drop start = c :: cs) :
    lexeme text mode c start = some (outcome text start (Lexeme.readLexeme mode c cs)) := by
  by_cases hmark : c ∈ Lexeme.marks
  · simp only [Lexeme.marks, List.mem_cons, List.not_mem_nil, or_false] at hmark
    -- in the order of `marks`
    rcases hmark with rfl | rfl | rfl | rfl | rfl | rfl | rfl | rfl | rfl | rfl | rfl
    · exact tokenBetween_single .comma h rfl rfl
    · exact tokenBetween_single .leftParen h rfl rfl
    · exact tokenBetween_single .rightParen h rfl rfl
    · exact property_eq h
    · exact items_eq h
    · exact metadata_eq h
    · exact quoted_eq h
    · exact withEquals_eq (.comparison .notEqual) .not h rfl rfl ⟨rfl, rfl⟩
    · exact withEquals_eq (.comparison .lessOrEqual) (.comparison .less) h rfl rfl ⟨rfl, rfl⟩
    · exact withEquals_eq (.comparison .greaterOrEqual) (.comparison .greater) h rfl rfl ⟨rfl, rfl⟩
    · exact equals_eq h
  rw [Lexeme.readLexeme_of_not_mark hmark]
  simp only [Lexeme.marks, List.mem_cons, List.not_mem_nil, or_false, not_or] at hmark
  simp only [lexeme, hmark, if_false]
  split_ifs
  · exact numeral_eq h
  · exact word_eq h (Nat.le_of_lt (lt_of_drop_eq_cons h))
  · rfl

end Places

/-! ## §7  One token at a time -/

/-- A scanner that keeps the whole text, and of the token read last what is told of it. -/
structure PlaceScanner where
  text : List Char
  mode : Mode
  position : Nat
  current : TokenRecord

namespace PlaceScanner

/-- Reads the next token, and tells whether there was one. There is no result if a place or a slice
of the text is reached for that is out of range. -/
def advance (s : PlaceScanner) : Option (PlaceScanner × Except Failure Bool) :=
  let start := Places.skipWhile s.text isBlank s.position
  match s.text[start]? with
  | none =>
      let ending : TokenRecord := ⟨Terminal.endName, "", s.text.length, false, false⟩
      some ({ s with position := start, current := ending }, .ok false)
  | some c => do
      match ← Places.lexeme s.text s.mode c start with
      | (stop, .ok token) => some ({ s with position := stop, current := token }, .ok true)
      | (stop, .error f) => some ({ s with position := stop }, .error f)

end PlaceScanner

end BuildCondition
