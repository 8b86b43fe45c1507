import BuildCondition.Template
import BuildCondition.Proofs.Asking
import BuildCondition.Proofs.Lexeme.Brackets
import BuildCondition.Proofs.Percent

/-!
# Filling templates

A template is taken apart from left to right. Wherever a reference begins that is closed, it is one
piece, and every other character is a piece of its own (§1). A template looks up its references, in
order and whatever is answered, and is filled with what is answered (§2). A text in which there is
nothing to fill in stays as it is (§3).
-/

namespace BuildCondition

open BuildCondition.Text

/-! ## §1  Piece by piece -/

namespace Reference

theorem toList_text (r : Reference) :
    r.text.toList = r.sigil.char :: '(' :: (r.body.toList ++ [')']) :=
  String.toList_ofList

theorem length_text (r : Reference) : r.text.toList.length = r.width := by
  rw [toList_text, width, ← String.length_toList]
  simp

theorem char_of_ofChar? {c : Char} {sigil : Sigil} (h : Sigil.ofChar? c = some sigil) :
    c = sigil.char := by
  unfold Sigil.ofChar? at h
  split at h
  · cases h
    assumption
  · split at h
    · cases h
      assumption
    · split at h
      · cases h
        assumption
      · cases h

/-- A reference that is found is a beginning of the text. -/
theorem startingWith?_eq_some {c : Char} {cs : List Char} {r : Reference}
    (h : startingWith? c cs = some r) : ∃ rest, c :: cs = r.text.toList ++ rest := by
  unfold startingWith? at h
  split at h
  · rename_i body
    obtain ⟨sigil, hsigil, h⟩ := Option.bind_eq_some_iff.mp h
    obtain ⟨k, hclose, rfl⟩ := Option.map_eq_some_iff.mp h
    obtain ⟨inside, rest, rfl, rfl, _⟩ := closing?_eq_some hclose
    refine ⟨rest, ?_⟩
    rw [toList_text, String.toList_ofList, Nat.zero_add, List.take_left, char_of_ofChar? hsigil]
    simp
  · cases h

end Reference

namespace Template

variable {c : Char} {cs : List Char} {r : Reference}

theorem piecesFrom_done (done : List Piece) (covered : Nat) (cs : List Char) :
    piecesFrom done covered cs = done.reverse ++ piecesFrom [] covered cs := by
  induction cs generalizing done covered with
  | nil => simp [piecesFrom]
  | cons c cs ih =>
      cases covered with
      | succ covered => exact ih done covered
      | zero =>
          simp only [piecesFrom]
          split
          · rename_i r _
            rw [ih (.reference r :: done), ih [.reference r], List.reverse_cons, List.append_assoc]
            rfl
          · rw [ih (.char c :: done), ih [.char c], List.reverse_cons, List.append_assoc]
            rfl

theorem piecesFrom_covered (done : List Piece) (src rest : List Char) :
    piecesFrom done src.length (src ++ rest) = piecesFrom done 0 rest := by
  induction src with
  | nil => rfl
  | cons c src ih => exact ih

@[simp] theorem pieces_nil : pieces [] = [] := rfl

theorem pieces_char (h : Reference.startingWith? c cs = none) :
    pieces (c :: cs) = .char c :: pieces cs := by
  rw [pieces, piecesFrom, h]
  exact piecesFrom_done [.char c] 0 cs

theorem pieces_reference {rest : List Char} (hsrc : c :: cs = r.text.toList ++ rest)
    (h : Reference.startingWith? c cs = some r) :
    pieces (c :: cs) = .reference r :: pieces rest := by
  have hcovered : cs = ('(' :: (r.body.toList ++ [')'])) ++ rest := by
    rw [Reference.toList_text] at hsrc
    exact (List.cons.inj hsrc).2
  have hwidth : r.width - 1 = ('(' :: (r.body.toList ++ [')'])).length := by
    rw [← Reference.length_text, Reference.toList_text, List.length_cons, Nat.add_sub_cancel]
  rw [pieces, piecesFrom, h]
  simp only [hwidth]
  rw [hcovered, piecesFrom_covered, piecesFrom_done]
  rfl

/-- What holds of a text for the rest behind each piece holds of every text. -/
theorem pieceInduction {motive : List Char → Prop} (nil : motive [])
    (char : ∀ c cs, Reference.startingWith? c cs = none → motive cs → motive (c :: cs))
    (reference : ∀ c cs r rest, c :: cs = r.text.toList ++ rest →
      Reference.startingWith? c cs = some r → motive rest → motive (c :: cs))
    (cs : List Char) : motive cs := by
  -- on the length, for a reference is longer than a character
  suffices h : ∀ n cs, cs.length ≤ n → motive cs from h cs.length cs (Nat.le_refl _)
  intro n
  induction n with
  | zero =>
      intro cs hn
      rw [List.length_eq_zero_iff.mp (Nat.le_zero.mp hn)]
      exact nil
  | succ n ih =>
      intro cs hn
      cases cs with
      | nil => exact nil
      | cons c cs =>
          cases hstart : Reference.startingWith? c cs with
          | none => exact char c cs hstart (ih cs (Nat.le_of_succ_le_succ hn))
          | some r =>
              obtain ⟨rest, hsrc⟩ := Reference.startingWith?_eq_some hstart
              refine reference c cs r rest hsrc hstart (ih rest ?_)
              rw [hsrc, List.length_append, Reference.toList_text, List.length_cons] at hn
              omega

/-- Without a parenthesis behind it, no character begins a reference. -/
theorem startingWith?_of_head? (h : cs.head? ≠ some '(') :
    Reference.startingWith? c cs = none := by
  unfold Reference.startingWith?
  split
  · exact absurd rfl h
  · rfl

theorem head?_append_ne {d : Char} {src rest : List Char} (hsrc : d ∉ src)
    (hrest : rest.head? ≠ some d) : (src ++ rest).head? ≠ some d := by
  cases src with
  | nil => exact hrest
  | cons c src =>
      intro h
      cases h
      exact hsrc List.mem_cons_self

/-- A text without opening parentheses is its characters. -/
theorem pieces_append_of_not_mem {src rest : List Char} (hsrc : '(' ∉ src)
    (hrest : rest.head? ≠ some '(') : pieces (src ++ rest) = src.map .char ++ pieces rest := by
  induction src with
  | nil => rfl
  | cons c src ih =>
      have hmore : '(' ∉ src := fun h => hsrc (List.mem_cons_of_mem c h)
      rw [List.cons_append, pieces_char (startingWith?_of_head? (head?_append_ne hmore hrest)),
        ih hmore]
      rfl

/-- A property reference is one piece if there are no parentheses in it. -/
theorem pieces_property {body rest : List Char} (hopen : '(' ∉ body) (hclose : ')' ∉ body) :
    pieces ('$' :: '(' :: (body ++ ')' :: rest)) =
      .reference ⟨.property, String.ofList body⟩ :: pieces rest := by
  refine pieces_reference ?_ ?_
  · rw [Reference.toList_text, String.toList_ofList]
    simp [Sigil.char]
  · show (Reference.closing? false false 0 0 (body ++ ')' :: rest)).map _ = _
    rw [Reference.closing?_of_not_mem hopen hclose, Nat.zero_add, Option.map_some, List.take_left]

/-- Every reference of a template stands in its text. -/
theorem text_infix_of_mem_pieces (h : .reference r ∈ pieces cs) : r.text.toList <:+: cs := by
  induction cs using pieceInduction with
  | nil => cases h
  | char c cs hstart ih =>
      rw [pieces_char hstart] at h
      rcases List.mem_cons.mp h with h | h
      · cases h
      · exact (ih h).trans (List.suffix_cons c cs).isInfix
  | reference c cs r' rest hsrc hstart ih =>
      rw [pieces_reference hsrc hstart] at h
      rw [hsrc]
      rcases List.mem_cons.mp h with h | h
      · cases h
        exact (List.prefix_append _ rest).isInfix
      · exact (ih h).trans (List.suffix_append _ rest).isInfix

/-! ## §2  Filling -/

/-- The references among some pieces. -/
def references : List Piece → List Reference
  | [] => []
  | .char _ :: ps => references ps
  | .reference r :: ps => r :: references ps

theorem references_append (ps qs : List Piece) :
    references (ps ++ qs) = references ps ++ references qs := by
  induction ps with
  | nil => rfl
  | cons p ps ih => cases p <;> simp [references, ih]

theorem references_map_char (cs : List Char) : references (cs.map .char) = [] := by
  induction cs with
  | nil => rfl
  | cons c cs ih => exact ih

/-- What a lookup finds, nothing being an empty text. -/
def found (state : BuildState) (l : Lookup) : List Char :=
  ((state (.lookup l)).getD "").toList

/-- The text of a piece, escapes unresolved. -/
def raw (state : BuildState) : Piece → List Char
  | .char c => [c]
  | .reference r => found state r.lookup

theorem run_lookUp (state : BuildState) (l : Lookup) :
    (Asking.lookUp l).run state = ([.lookup l], .ok ((state (.lookup l)).getD "")) := rfl

/-- Filling asks for the references, one after the other, and puts in what is found. -/
theorem run_fillOnto (state : BuildState) (done : List Char) (ps : List Piece) :
    (fillOnto done ps).run state =
      ((references ps).map fun r => .lookup r.lookup,
        .ok (done.reverse ++ ps.flatMap (raw state))) := by
  induction ps generalizing done with
  | nil => simp [fillOnto, references, Asking.ok]
  | cons p ps ih =>
      cases p with
      | char c =>
          rw [fillOnto, ih]
          simp [references, raw]
      | reference r =>
          rw [fillOnto, Asking.run_bind, run_lookUp]
          simp only [ih]
          simp [references, raw, found]

theorem run_fill (state : BuildState) (s : String) :
    (fill s).run state =
      ((references (pieces s.toList)).map fun r => .lookup r.lookup,
        .ok (String.ofList (Percent.unescape ((pieces s.toList).flatMap (raw state))))) := by
  rw [fill, Asking.map, Asking.run_bind, run_fillOnto]
  simp [Asking.ok]

theorem fillOnto_asksOnly {p : Query → Prop} {ps : List Piece} (done : List Char)
    (h : ∀ r, .reference r ∈ ps → p (.lookup r.lookup)) : (fillOnto done ps).AsksOnly p := by
  induction ps generalizing done with
  | nil => trivial
  | cons piece ps ih =>
      cases piece with
      | char c => exact ih (c :: done) fun r hr => h r (List.mem_cons_of_mem _ hr)
      | reference r =>
          have hlook : (Asking.lookUp r.lookup).AsksOnly p :=
            ⟨h r List.mem_cons_self, fun _ => trivial⟩
          exact hlook.bind fun text =>
            ih (text.toList.reverseAux done) fun r hr => h r (List.mem_cons_of_mem _ hr)

/-! ## §3  Plain text -/

theorem pieces_of_plain (h : Lexeme.hasReference cs = false) : pieces cs = cs.map .char := by
  induction cs with
  | nil => rfl
  | cons c cs ih =>
      simp only [Lexeme.hasReference, Bool.or_eq_false_iff, decide_eq_false_iff_not,
        Bool.and_eq_false_iff, beq_eq_false_iff_ne] at h
      obtain ⟨⟨hpercent, hopens⟩, hrest⟩ := h
      have hstart : Reference.startingWith? c cs = none := by
        rcases hopens with ⟨hdollar, hat⟩ | hhead
        · -- the character before a parenthesis is no sigil
          unfold Reference.startingWith?
          split
          · simp [Sigil.ofChar?, hdollar, hat, hpercent]
          · rfl
        · exact startingWith?_of_head? hhead
      rw [pieces_char hstart, ih hrest]
      rfl

theorem not_mem_of_plain (h : Lexeme.hasReference cs = false) : '%' ∉ cs := by
  induction cs with
  | nil => exact List.not_mem_nil
  | cons c cs ih =>
      simp only [Lexeme.hasReference, Bool.or_eq_false_iff, decide_eq_false_iff_not] at h
      rw [List.mem_cons, not_or]
      exact ⟨fun hc => h.1.1 hc.symm, ih h.2⟩

theorem fillOnto_map_char (done cs : List Char) :
    fillOnto done (cs.map .char) = .ok (done.reverse ++ cs) := by
  induction cs generalizing done with
  | nil => rw [List.map_nil, fillOnto, List.append_nil]
  | cons c cs ih =>
      rw [List.map_cons, fillOnto, ih, List.reverse_cons, List.append_assoc]
      rfl

/-- **A text without references is filled with itself**, and nothing is looked up. -/
theorem fill_of_plain {s : String} (h : Lexeme.hasReference s.toList = false) :
    fill s = .ok s := by
  rw [fill, pieces_of_plain h, fillOnto_map_char]
  show Asking.ok (String.ofList (Percent.unescape ([].reverse ++ s.toList))) = _
  rw [List.reverse_nil, List.nil_append, Percent.unescape_of_not_mem (not_mem_of_plain h),
    String.ofList_toList]

end Template

end BuildCondition
