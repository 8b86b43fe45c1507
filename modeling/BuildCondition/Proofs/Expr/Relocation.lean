import BuildCondition.Proofs.Expr.Simulation
import BuildCondition.Proofs.Relocation

/-!
# Parsing what has been moved

A parser hands offsets on and never looks at one. So on tokens that have been moved it finds what it
found where they were, moved in the same way, and if it fails, it reports the same failure about the
moved token (§2). That holds of each parser of the grammar if it holds of those it is made of, and
hence of whole conditions (§3).
-/

namespace BuildCondition

/-! ## §1  What is moved -/

/-- The same failure at another position. Positions count from one, offsets from zero. -/
def Failure.relocate (f : Nat → Nat) (failure : Failure) : Failure :=
  { failure with position := f (failure.position - 1) + 1 }

/-- The same token, or the end, at another offset. -/
def Terminal.relocate (f : Nat → Nat) : Terminal → Terminal
  | .token t => .token (t.relocate f)
  | .endOfInput n => .endOfInput (f n)

/-- The same tokens at other offsets. -/
def Lexed.relocate (f : Nat → Nat) (l : Lexed) : Lexed :=
  ⟨l.tokens.map (Token.relocate f), (l.ending.map f).mapError (Failure.relocate f)⟩

namespace Expr

variable {α β : Type} {f : Nat → Nat}

/-- The surroundings of moved tokens. -/
def Surroundings.relocate (f : Nat → Nat) (s : Surroundings) : Surroundings :=
  { s with ending := (s.ending.map f).mapError (Failure.relocate f) }

/-- A result with everything moved: what is found, the tokens that are left, or the failure. -/
def movedResult (f : Nat → Nat) (move : α → α) (r : Except Failure (α × List Token)) :
    Except Failure (α × List Token) :=
  (r.map fun (x, rest) => (move x, rest.map (Token.relocate f))).mapError (Failure.relocate f)

section Results

variable {move : α → α} {move' : β → β} {r : Except Failure (α × List Token)}

theorem bind_movedResult {g g' : α × List Token → Except Failure (β × List Token)}
    (h : ∀ x rest, g' (move x, rest.map (Token.relocate f)) = movedResult f move' (g (x, rest))) :
    (movedResult f move r).bind g' = movedResult f move' (r.bind g) := by
  cases r with
  | error failure => rfl
  | ok found => exact h found.1 found.2

theorem map_movedResult {g g' : α → β} (h : ∀ x, g' (move x) = move' (g x)) :
    ((movedResult f move r).map fun (x, rest) => (g' x, rest)) =
      movedResult f move' (r.map fun (x, rest) => (g x, rest)) := by
  cases r with
  | error failure => rfl
  | ok found =>
      show Except.ok (g' (move found.1), _) = Except.ok (move' (g found.1), _)
      rw [h]

end Results

/-- On moved tokens, `moved` finds what `parse` finds on the tokens as they were, moved by `move`. -/
def Relocates (f : Nat → Nat) (move : α → α) (parse moved : Parse α) : Prop :=
  ∀ ts, moved (ts.map (Token.relocate f)) = movedResult f move (parse ts)

/-! ## §2  Parsers -/

namespace Relocates

variable {s : Surroundings} {move : α → α} {p p' q q' : Parse Expr}

theorem unexpected : Relocates f move s.unexpected (s.relocate f).unexpected := by
  intro ts
  cases ts with
  | cons t ts => rfl
  | nil =>
      obtain ⟨limit, ending, count⟩ := s
      cases ending <;> rfl

theorem tooDeep : Relocates f move s.tooDeep (s.relocate f).tooDeep := by
  intro ts
  cases ts with
  | cons t ts => rfl
  | nil =>
      obtain ⟨limit, ending, count⟩ := s
      cases ending <;> rfl

/-- A lexeme that has to be there is found on moved tokens, too. -/
theorem expect (l : Lexeme) {x x' : α} (hx : x' = move x) (ts : List Token) :
    (((s.relocate f).expect l (ts.map (Token.relocate f))).map fun rest => (x', rest)) =
      movedResult f move ((s.expect l ts).map fun rest => (x, rest)) := by
  have hfails : ∀ (s : Surroundings) (x : α) ts,
      ((s.unexpected ts : Except Failure (List Token)).map fun rest => (x, rest)) =
        s.unexpected ts := by
    intro s x ts
    rw [Surroundings.unexpected, Surroundings.unexpected]
    cases s.here ts <;> rfl
  subst hx
  cases ts with
  | nil =>
      rw [List.map_nil, Surroundings.expect, Surroundings.expect, hfails, hfails]
      exact unexpected []
  | cons t ts =>
      rw [List.map_cons, Surroundings.expect, Surroundings.expect]
      by_cases ht : t.lexeme = l
      · have ht' : (t.relocate f).lexeme = l := ht
        rw [if_pos ht, if_pos ht']
        rfl
      · have ht' : (t.relocate f).lexeme ≠ l := ht
        rw [if_neg ht, if_neg ht', hfails, hfails]
        exact unexpected (t :: ts)

theorem furtherItems (hp : Relocates f (Expr.relocate f) p p') (sep : Lexeme) (n : Nat)
    (done : List Expr) :
    Relocates f (List.map (Expr.relocate f)) (Surroundings.furtherItems sep p n done)
      (Surroundings.furtherItems sep p' n (done.map (Expr.relocate f))) := by
  have hdone : ∀ (done : List Expr) ts,
      (.ok ((done.map (Expr.relocate f)).reverse, ts.map (Token.relocate f)) :
        Except Failure (List Expr × List Token)) =
        movedResult f (List.map (Expr.relocate f)) (.ok (done.reverse, ts)) := by
    intro done ts
    rw [← List.map_reverse]
    rfl
  induction n generalizing done with
  | zero => exact hdone done
  | succ n ih =>
      intro ts
      cases ts with
      | nil => exact hdone done []
      | cons t ts =>
          rw [List.map_cons]
          by_cases ht : t.lexeme = sep
          · have ht' : (t.relocate f).lexeme = sep := ht
            rw [Surroundings.furtherItems_of_eq ht, Surroundings.furtherItems_of_eq ht', hp ts]
            exact bind_movedResult fun e rest => ih (e :: done) rest
          · have ht' : (t.relocate f).lexeme ≠ sep := ht
            rw [Surroundings.furtherItems_of_ne ht, Surroundings.furtherItems_of_ne ht']
            exact hdone done (t :: ts)

/-- A first item and others, moved. -/
def moveItems (f : Nat → Nat) (found : Expr × List Expr) : Expr × List Expr :=
  (found.1.relocate f, found.2.map (Expr.relocate f))

theorem items (hp : Relocates f (Expr.relocate f) p p') (sep : Lexeme) :
    Relocates f (moveItems f) (s.items sep p) ((s.relocate f).items sep p') := by
  intro ts
  rw [Surroundings.items, Surroundings.items, hp ts]
  refine bind_movedResult fun first rest => ?_
  have hothers := hp.furtherItems sep s.count [] rest
  show (Surroundings.furtherItems sep p' s.count [] _).map _ = _
  rw [show Surroundings.furtherItems sep p' s.count [] _ = _ from hothers]
  exact map_movedResult fun others => rfl

theorem arguments (hp : Relocates f (Expr.relocate f) p p') :
    Relocates f (List.map (Expr.relocate f)) (s.arguments p) ((s.relocate f).arguments p') := by
  have hlist : ∀ ts,
      (((s.relocate f).items .comma p' (ts.map (Token.relocate f))).bind fun (found, rest) =>
        ((s.relocate f).expect .rightParen rest).map fun rest => (found.1 :: found.2, rest)) =
      movedResult f (List.map (Expr.relocate f)) ((s.items .comma p ts).bind fun (found, rest) =>
        (s.expect .rightParen rest).map fun rest => (found.1 :: found.2, rest)) := by
    intro ts
    rw [hp.items .comma ts]
    exact bind_movedResult fun found rest => expect .rightParen (by rfl) rest
  intro ts
  cases ts with
  | nil => exact hlist []
  | cons t ts =>
      by_cases ht : t.lexeme = .rightParen
      · obtain ⟨l, n⟩ := t
        cases ht
        rfl
      · have ht' : (t.relocate f).lexeme ≠ .rightParen := ht
        rw [List.map_cons, Surroundings.arguments_of_ne_rightParen ht,
          Surroundings.arguments_of_ne_rightParen ht']
        exact hlist (t :: ts)

/-- Behind its name, a call finds its arguments where they have been moved to. -/
theorem behindName (hp : Relocates f (Expr.relocate f) p p') (n : Nat) (name : String) :
    Relocates f (Expr.relocate f) (Simulation.behindName s p n name)
      (Simulation.behindName (s.relocate f) p' (f n) name) := by
  intro ts
  have hopen : (((s.relocate f).expect .leftParen (ts.map (Token.relocate f))).map
      fun rest => ((), rest)) = movedResult f id ((s.expect .leftParen ts).map
        fun rest => ((), rest)) := expect .leftParen (by rfl) ts
  rw [Simulation.behindName, Simulation.behindName, hopen]
  refine bind_movedResult fun _ rest => ?_
  dsimp only
  rw [hp.arguments rest]
  refine map_movedResult fun es => ?_
  rw [Expr.relocate, relocateAll_eq_map]

theorem primary (hp : Relocates f (Expr.relocate f) p p') :
    Relocates f (Expr.relocate f) (s.primary p) ((s.relocate f).primary p') := by
  intro ts
  cases ts with
  | nil => exact unexpected []
  | cons t ts =>
      obtain ⟨l, n⟩ := t
      cases l with
      | leftParen =>
          show (p' (ts.map _)).bind _ = movedResult f _ ((p ts).bind _)
          rw [hp ts]
          exact bind_movedResult fun e rest => expect .rightParen rfl rest
      | functionName name =>
          rw [Simulation.primary_functionName]
          exact (Simulation.primary_functionName _ p' (f n) name _).trans (hp.behindName n name ts)
      | word text =>
          show Except.ok (ofWord (f n) text, _) = Except.ok ((ofWord n text).relocate f, _)
          rw [relocate_ofWord]
      | quoted text =>
          show Except.ok (ofQuoted (f n) text, _) = Except.ok ((ofQuoted n text).relocate f, _)
          rw [relocate_ofQuoted]
      | numeral text =>
          show Except.ok (ofNumeral (f n) text, _) = Except.ok ((ofNumeral n text).relocate f, _)
          rw [relocate_ofNumeral]
      | reference r => rfl
      | connective | not | comparison | rightParen | comma => exact unexpected (⟨_, n⟩ :: ts)

theorem compared (hp : Relocates f (Expr.relocate f) p p') (accepted : Comparison → Bool) :
    Relocates f (Expr.relocate f) (Surroundings.compared accepted p)
      (Surroundings.compared accepted p') := by
  intro ts
  rw [Surroundings.compared, Surroundings.compared, hp ts]
  refine bind_movedResult fun left rest => ?_
  cases rest with
  | nil => rfl
  | cons t rest =>
      obtain ⟨l, n⟩ := t
      cases l with
      | comparison op =>
          show ite _ _ _ = movedResult f _ (ite _ _ _)
          by_cases hop : accepted op = true
          · rw [if_pos hop, if_pos hop, hp rest]
            exact map_movedResult fun right => rfl
          · rw [if_neg hop, if_neg hop]
            rfl
      | _ => rfl

theorem equality (hp : Relocates f (Expr.relocate f) p p') :
    Relocates f (Expr.relocate f) (s.equality p) ((s.relocate f).equality p') :=
  (hp.primary.compared _).compared _

theorem chained (hp : Relocates f (Expr.relocate f) p p') (op : Connective) :
    Relocates f (Expr.relocate f) (s.chained op p) ((s.relocate f).chained op p') := by
  intro ts
  rw [Surroundings.chained, Surroundings.chained, hp.items (.connective op) ts]
  cases s.items (.connective op) p ts with
  | error failure => rfl
  | ok found =>
      obtain ⟨⟨first, others⟩, rest⟩ := found
      show Except.ok (_, _) = Except.ok ((joined op first others).relocate f, _)
      rw [relocate_joined]

theorem alternatives (hp : Relocates f (Expr.relocate f) p p') :
    Relocates f (Expr.relocate f) (s.alternatives p) ((s.relocate f).alternatives p') :=
  (hp.chained .and).chained .or

theorem operandWith (hq : Relocates f (Expr.relocate f) q q')
    (hp : Relocates f (Expr.relocate f) p p') :
    Relocates f (Expr.relocate f) (s.operandWith q p) ((s.relocate f).operandWith q' p') := by
  intro ts
  cases ts with
  | nil => exact hp.equality []
  | cons t ts =>
      obtain ⟨l, n⟩ := t
      cases l with
      | not =>
          show (q' (ts.map _)).map _ = movedResult f _ ((q ts).map _)
          rw [hq ts]
          exact map_movedResult fun e => rfl
      | _ => exact hp.equality (⟨_, n⟩ :: ts)

/-! ## §3  Levels and whole conditions -/

theorem operand (levels : Nat) :
    Relocates f (Expr.relocate f) (s.operand levels) ((s.relocate f).operand levels) := by
  induction levels with
  | zero => exact tooDeep.operandWith tooDeep
  | succ levels ih => exact ih.operandWith ih.alternatives

theorem expr (levels : Nat) :
    Relocates f (Expr.relocate f) (s.expr levels) ((s.relocate f).expr levels) := by
  cases levels with
  | zero => exact tooDeep
  | succ levels => exact (operand levels).alternatives

end Relocates

theorem finish_relocate (s : Surroundings) (result : Expr × List Token) :
    (s.relocate f).finish (result.1.relocate f, result.2.map (Token.relocate f)) =
      ((s.finish result).map (Expr.relocate f)).mapError (Failure.relocate f) := by
  obtain ⟨e, rest⟩ := result
  cases rest with
  | cons t rest => rfl
  | nil =>
      show ((s.ending.map f).mapError _).map _ = ((s.ending.map _).map _).mapError _
      cases s.ending <;> rfl

/-- **Moving the tokens moves what is made of them**, be it an expression or a failure. -/
theorem ofLexed_relocate (f : Nat → Nat) (limit : Nat) (l : Lexed) :
    ofLexed limit (l.relocate f) =
      ((ofLexed limit l).map (Expr.relocate f)).mapError (Failure.relocate f) := by
  let s : Surroundings := ⟨limit, l.ending, l.tokens.length⟩
  have hsurroundings : (⟨limit, (l.relocate f).ending, (l.relocate f).tokens.length⟩ :
      Surroundings) = s.relocate f := by
    simp [s, Surroundings.relocate, Lexed.relocate]
  have hexpr : (s.relocate f).expr limit (l.relocate f).tokens =
      movedResult f (Expr.relocate f) (s.expr limit l.tokens) := Relocates.expr limit l.tokens
  rw [ofLexed, hsurroundings, hexpr, ofLexed]
  show _ = (((s.expr limit l.tokens).bind s.finish).map _).mapError _
  cases s.expr limit l.tokens with
  | error failure => rfl
  | ok result => exact finish_relocate s result

end Expr

end BuildCondition
