import BuildCondition.Proofs.Host
import BuildCondition.Proofs.Lexeme.Balance
import BuildCondition.Proofs.Template

/-!
# What is put in is never read again

A value that is put into a template may look like a reference itself, or like half of one. It must
not matter: which references there are is settled by the text of the template alone. So the division
of a text into references and characters is described without going through the text, by where
references are closed (§1, §2). Whoever answers is asked for these references, and what is answered
goes into the result as it is, up to escapes (§3).
-/

namespace BuildCondition

/-! ## §1  Closed references -/

namespace Reference

/-- The parenthesis behind the body is the one that closes the reference. Quotes count in item
lists. -/
def IsClosed (r : Reference) : Prop :=
  ClosesBehind (r.sigil = .items) false 0 r.body.toList

theorem ofChar?_char (sigil : Sigil) : Sigil.ofChar? sigil.char = some sigil := by
  cases sigil <;> rfl

theorem text_append (r : Reference) (rest : List Char) :
    r.text.toList ++ rest = r.sigil.char :: '(' :: (r.body.toList ++ ')' :: rest) := by
  rw [toList_text, List.cons_append, List.cons_append, List.append_assoc, List.singleton_append]

/-- **A text starts with a reference if and only if a closed one stands there.** -/
theorem startingWith?_eq_some_iff {c : Char} {cs : List Char} {r : Reference} :
    startingWith? c cs = some r ↔ r.IsClosed ∧ ∃ rest, c :: cs = r.text.toList ++ rest := by
  constructor
  · intro h
    refine ⟨?_, startingWith?_eq_some h⟩
    unfold startingWith? at h
    split at h
    · obtain ⟨sigil, _, h⟩ := Option.bind_eq_some_iff.mp h
      obtain ⟨k, hclose, rfl⟩ := Option.map_eq_some_iff.mp h
      obtain ⟨body, rest, rfl, rfl, hbehind⟩ := closing?_eq_some_iff.mp hclose
      rw [IsClosed, String.toList_ofList, Nat.zero_add, List.take_left]
      exact hbehind
    · cases h
  · rintro ⟨hclosed, rest, hsrc⟩
    rw [text_append] at hsrc
    obtain ⟨rfl, rfl⟩ := List.cons.inj hsrc
    have hclose : closing? (r.sigil = .items) false 0 0 (r.body.toList ++ ')' :: rest) =
        some r.body.toList.length :=
      closing?_eq_some_iff.mpr ⟨_, rest, rfl, (Nat.zero_add _).symm, hclosed⟩
    show (Sigil.ofChar? r.sigil.char).bind _ = some r
    rw [ofChar?_char, Option.bind_some, hclose, Option.map_some, List.take_left,
      String.ofList_toList]

theorem startingWith?_eq_none_iff {c : Char} {cs : List Char} :
    startingWith? c cs = none ↔
      ∀ (r : Reference) (rest : List Char), r.IsClosed → c :: cs ≠ r.text.toList ++ rest := by
  rw [Option.eq_none_iff_forall_ne_some]
  constructor
  · intro h r rest hclosed hsrc
    exact h r (startingWith?_eq_some_iff.mpr ⟨hclosed, rest, hsrc⟩)
  · intro h r hstart
    obtain ⟨hclosed, rest, hsrc⟩ := startingWith?_eq_some_iff.mp hstart
    exact h r rest hclosed hsrc

end Reference

namespace Template

/-! ## §2  The division of a text -/

/-- From left to right, a closed reference is one piece wherever there is one. Every other character
is a piece of its own, those of a reference that is not closed included. -/
inductive Divides : List Char → List Piece → Prop where
  | nil : Divides [] []
  | reference {r : Reference} {rest : List Char} {ps : List Piece} (closed : r.IsClosed)
      (behind : Divides rest ps) : Divides (r.text.toList ++ rest) (.reference r :: ps)
  | char {c : Char} {cs : List Char} {ps : List Piece}
      (unmet : ∀ (r : Reference) (rest : List Char), r.IsClosed → c :: cs ≠ r.text.toList ++ rest)
      (behind : Divides cs ps) : Divides (c :: cs) (.char c :: ps)

theorem divides_pieces (cs : List Char) : Divides cs (pieces cs) := by
  induction cs using pieceInduction with
  | nil => exact .nil
  | char c cs hstart ih =>
      rw [pieces_char hstart]
      exact .char (Reference.startingWith?_eq_none_iff.mp hstart) ih
  | reference c cs r rest hsrc hstart ih =>
      rw [pieces_reference hsrc hstart, hsrc]
      exact .reference (Reference.startingWith?_eq_some_iff.mp hstart).1 ih

/-- A text is divided in one way. -/
theorem eq_pieces_of_divides {cs : List Char} {ps : List Piece} (h : Divides cs ps) :
    ps = pieces cs := by
  induction h with
  | nil => rfl
  | @reference r rest ps hclosed _ ih =>
      have hsrc := (Reference.text_append r rest).symm
      rw [Reference.text_append, ih]
      exact (pieces_reference hsrc
        (Reference.startingWith?_eq_some_iff.mpr ⟨hclosed, rest, hsrc⟩)).symm
  | char hnone _ ih => rw [pieces_char (Reference.startingWith?_eq_none_iff.mpr hnone), ih]

/-! ## §3  Answers -/

/-- The text of some pieces with the answers of a host put in, `past` having been asked before. -/
def filledBy (host : Host) (past : List Query) : List Piece → List Char
  | [] => []
  | .char c :: ps => c :: filledBy host past ps
  | .reference r :: ps =>
      ((host past (.lookup r.lookup)).getD "").toList ++
        filledBy host (past ++ [.lookup r.lookup]) ps

theorem converse_fillOnto (host : Host) (past : List Query) (done : List Char) (ps : List Piece) :
    (fillOnto done ps).converse host past =
      (past ++ (references ps).map fun r => .lookup r.lookup,
        .ok (done.reverse ++ filledBy host past ps)) := by
  induction ps generalizing past done with
  | nil => simp [fillOnto, references, filledBy, Asking.ok, Asking.converse]
  | cons p ps ih =>
      cases p with
      | char c =>
          rw [fillOnto, ih]
          simp [references, filledBy]
      | reference r =>
          -- one question, and what is asked behind it knows of it
          show (fillOnto (_ : List Char) ps).converse host (past ++ [.lookup r.lookup]) = _
          rw [ih]
          simp [references, filledBy]

/-- **Values that are put in are never read as references.** Whoever answers a template, and
whatever the answers are, the same things are looked up in the same order: the closed references of
the text, from left to right. The result is the text with what is answered in place of each of them,
and with every other character kept, its escapes resolved. -/
theorem fill_never_rereads (text : String) :
    (∀ host host' : Host,
      ((fill text).converse host []).1 = ((fill text).converse host' []).1) ∧
    ∃ ps, Divides text.toList ps ∧ (∀ qs, Divides text.toList qs → qs = ps) ∧
      (∀ host : Host, (fill text).converse host [] =
        ((references ps).map fun r => .lookup r.lookup,
          .ok (String.ofList (Percent.unescape (filledBy host [] ps))))) ∧
      ∀ state : BuildState, (fill text).run state =
        ((references ps).map fun r => .lookup r.lookup,
          .ok (String.ofList (Percent.unescape (ps.flatMap (raw state))))) := by
  have hconverse : ∀ host : Host, (fill text).converse host [] =
      ((references (pieces text.toList)).map fun r => .lookup r.lookup,
        .ok (String.ofList (Percent.unescape (filledBy host [] (pieces text.toList))))) := by
    intro host
    rw [fill, Asking.converse_map, converse_fillOnto]
    rfl
  refine ⟨fun host host' => ?_, pieces text.toList, divides_pieces _,
    fun qs hqs => eq_pieces_of_divides hqs, hconverse, fun state => run_fill state text⟩
  rw [hconverse, hconverse]

/-- The answer looks like the reference it stands for, and the other one is not closed. -/
example : (fill "$(a)-$(b").run (.answering (fun _ => some "$(a)") (.bool true)) =
    ([.lookup (.property "a")], .ok "$(a)-$(b") := by
  rfl

end Template

end BuildCondition
