import BuildCondition.Proofs.Mode.Lexing

/-!
# Marking a quoted text

Whether there is anything to be filled in is a matter of the whole quoted text. It can also be noted
while the end of the text is looked for: a reference that begins with a character of the text is
told by the character behind it, and that is the same as in the text that goes on behind the quote.
-/

namespace BuildCondition.Lexeme

open BuildCondition.Text

variable {mode : Mode} {zone : Zone} {marked : Bool} {k : Nat} {c : Char} {cs : List Char}

/-- Finds the quote that ends a quoted text, as `quoteEnd` does. On the way the text is marked if
there is something to be filled in. -/
def markedEnd (mode : Mode) (zone : Zone) (marked : Bool) (k : Nat) :
    List Char → Except Fault (Nat × Bool)
  | [] => .error ⟨.stringNotClosed, none, 0, 0⟩
  | c :: cs =>
      match zone with
      | .text =>
          if c = '\'' then .ok (k, marked)
          else if c = '@' ∧ cs.head? = some '(' then
            if mode = .propertiesOnly then .error ⟨.itemsNotAllowed, none, k + 1, 0⟩
            else markedEnd mode .list true (k + 1) cs
          else if c = '%' ∧ cs.head? = some '(' ∧ mode = .propertiesOnly then
            .error ⟨.metadataNotAllowed, none, k + 1, 0⟩
          else
            markedEnd mode .text (marked || c = '%' || (c = '$' && cs.head? == some '(')) (k + 1) cs
      | .list => markedEnd mode (Zone.list.behind c) marked (k + 1) cs
      | .listQuote => markedEnd mode (Zone.listQuote.behind c) marked (k + 1) cs

theorem markedEnd_text_quote :
    markedEnd mode .text marked k ('\'' :: cs) = .ok (k, marked) := by
  rw [markedEnd.eq_def]
  exact if_pos rfl

theorem markedEnd_text_items (h : c = '@' ∧ cs.head? = some '(') :
    markedEnd mode .text marked k (c :: cs) =
      if mode = .propertiesOnly then .error ⟨.itemsNotAllowed, none, k + 1, 0⟩
      else markedEnd mode .list true (k + 1) cs := by
  obtain ⟨rfl, hhead⟩ := h
  rw [markedEnd.eq_def]
  exact (if_neg (by decide)).trans (if_pos ⟨rfl, hhead⟩)

theorem markedEnd_text_metadata (h : c = '%' ∧ cs.head? = some '(' ∧ mode = .propertiesOnly) :
    markedEnd mode .text marked k (c :: cs) = .error ⟨.metadataNotAllowed, none, k + 1, 0⟩ := by
  obtain ⟨rfl, hhead⟩ := h
  rw [markedEnd.eq_def]
  exact (if_neg (by decide)).trans ((if_neg (by simp)).trans (if_pos ⟨rfl, hhead⟩))

theorem markedEnd_text_pass (hquote : c ≠ '\'') (hitems : ¬(c = '@' ∧ cs.head? = some '('))
    (hmetadata : ¬(c = '%' ∧ cs.head? = some '(' ∧ mode = .propertiesOnly)) :
    markedEnd mode .text marked k (c :: cs) =
      markedEnd mode .text (marked || c = '%' || (c = '$' && cs.head? == some '(')) (k + 1) cs := by
  rw [markedEnd.eq_def]
  exact (if_neg hquote).trans ((if_neg hitems).trans (if_neg hmetadata))

/-- Whether a reference begins with a character of a quoted text can be told before the end of the
text is known. -/
theorem hasReference_take {m : Nat} (h : quoteEnd mode zone (k + 1) cs = .ok m) :
    hasReference ((c :: cs).take (m - k)) =
      (c = '%' || ((c = '$' || c = '@') && cs.head? == some '(') ||
        hasReference (cs.take (m - (k + 1)))) := by
  obtain ⟨inside, htake, hinside, hhead⟩ := @take_of_quoteEnd c cs _ _ _ _ h
  have hopens : (inside.head? == some '(') = (cs.head? == some '(') := by
    rw [Bool.eq_iff_iff, beq_iff_eq, beq_iff_eq, hhead]
  rw [htake, hinside, hasReference, hopens]

/-- A quoted text is marked if a reference or an escape begins in it. In an item list it has been
marked already. -/
theorem markedEnd_eq (hzone : zone ≠ .text → marked = true) :
    markedEnd mode zone marked k cs =
      (quoteEnd mode zone k cs).map fun m => (m, marked || hasReference (cs.take (m - k))) := by
  induction cs generalizing zone marked k with
  | nil => rfl
  | cons c cs ih =>
      cases zone with
      | list | listQuote =>
          obtain rfl := hzone (by decide)
          rw [markedEnd.eq_def, quoteEnd_list (by decide)]
          exact ih fun _ => rfl
      | text =>
          by_cases hquote : c = '\''
          · rw [hquote, markedEnd_text_quote, quoteEnd_text_quote]
            show _ = Except.ok (k, marked || hasReference (List.take (k - k) _))
            rw [Nat.sub_self, List.take_zero, hasReference, Bool.or_false]
          · by_cases hitems : c = '@' ∧ cs.head? = some '('
            · rw [markedEnd_text_items hitems, quoteEnd_text_items hitems]
              by_cases hmode : mode = .propertiesOnly
              · rw [if_pos hmode, if_pos hmode]
                rfl
              · rw [if_neg hmode, if_neg hmode, ih fun _ => rfl]
                refine map_congr_of_ok fun m hm => ?_
                rw [hasReference_take hm]
                simp [hitems.1, hitems.2]
            · by_cases hmetadata : c = '%' ∧ cs.head? = some '(' ∧ mode = .propertiesOnly
              · rw [markedEnd_text_metadata hmetadata, quoteEnd_text_metadata hmetadata]
                rfl
              · rw [markedEnd_text_pass hquote hitems hmetadata,
                  quoteEnd_text_pass hquote hitems hmetadata, ih fun h => absurd rfl h]
                have hno : (decide (c = '@') && cs.head? == some '(') = false := by
                  simpa using hitems
                refine map_congr_of_ok fun m hm => ?_
                rw [hasReference_take hm, Bool.and_or_distrib_right, hno, Bool.or_false,
                  Bool.or_assoc, Bool.or_assoc, Bool.or_assoc]

/-- A lexeme that starts with a quote, of which `cs` is the rest, and whether it is marked. -/
def readMarked (mode : Mode) (cs : List Char) : Except Fault (Lexeme × Bool) :=
  (markedEnd mode .text false 0 cs).map fun r => (quoted (String.ofList (cs.take r.1)), r.2)

/-- The quoted texts that are marked are the templates. -/
theorem readMarked_eq (mode : Mode) (cs : List Char) :
    readMarked mode cs = (readQuoted mode cs).map fun l => (l, l.isTemplate) := by
  rw [readMarked, markedEnd_eq fun h => absurd rfl h, readQuoted]
  cases quoteEnd mode .text 0 cs with
  | error fault => rfl
  | ok m =>
      show Except.ok (_, hasReference (cs.take m)) =
        Except.ok (_, hasReference (String.ofList (cs.take m)).toList)
      rw [String.toList_ofList]

end BuildCondition.Lexeme
