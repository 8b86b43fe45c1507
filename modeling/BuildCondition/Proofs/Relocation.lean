import BuildCondition.Expr
import BuildCondition.Proofs.Grammar

/-!
# Moving conditions about

A condition that is moved within a text, or compared with another regardless of where it stands,
keeps everything but its offsets. The grammar does not look at offsets: what derives from some
tokens still does so when all of them are relocated in the same way (§3).
-/

namespace BuildCondition

/-! ## §1  Tokens -/

/-- The same lexeme at another offset. -/
def Token.relocate (f : Nat → Nat) (t : Token) : Token :=
  ⟨t.lexeme, f t.offset⟩

@[simp] theorem Token.relocate_id : Token.relocate (fun n => n) = id := rfl

theorem Token.relocate_comp (f g : Nat → Nat) :
    Token.relocate f ∘ Token.relocate g = Token.relocate fun n => f (g n) := rfl

/-! ## §2  Expressions -/

namespace Expr

mutual

/-- The same expression with other offsets. -/
def relocate (f : Nat → Nat) : Expr → Expr
  | literal n v s => literal (f n) v s
  | template n s => template (f n) s
  | reference n r => reference (f n) r
  | call n name arguments => call (f n) name (relocateAll f arguments)
  | not n operand => not (f n) (relocate f operand)
  | comparison op left right => comparison op (relocate f left) (relocate f right)
  | chain op first others => chain op (relocate f first) (relocateAll f others)

def relocateAll (f : Nat → Nat) : List Expr → List Expr
  | [] => []
  | e :: es => relocate f e :: relocateAll f es

end

/-- An expression regardless of where it stands. -/
def unplaced (e : Expr) : Expr :=
  e.relocate fun _ => 0

variable (f : Nat → Nat)

@[simp] theorem relocateAll_eq_map (es : List Expr) : relocateAll f es = es.map (relocate f) := by
  induction es with
  | nil => rfl
  | cons e es ih => rw [relocateAll, ih, List.map_cons]

mutual

theorem relocate_relocate (f g : Nat → Nat) : ∀ e : Expr,
    (e.relocate g).relocate f = e.relocate fun n => f (g n)
  | literal _ _ _ | template _ _ | reference _ _ => rfl
  | call n name arguments => by
      simp only [relocate]
      rw [relocateAll_relocateAll f g arguments]
  | not n operand => by
      simp only [relocate]
      rw [relocate_relocate f g operand]
  | comparison op left right => by
      simp only [relocate]
      rw [relocate_relocate f g left, relocate_relocate f g right]
  | chain op first others => by
      simp only [relocate]
      rw [relocate_relocate f g first, relocateAll_relocateAll f g others]

theorem relocateAll_relocateAll (f g : Nat → Nat) : ∀ es : List Expr,
    relocateAll f (relocateAll g es) = relocateAll (fun n => f (g n)) es
  | [] => rfl
  | e :: es => by
      simp only [relocateAll]
      rw [relocate_relocate f g e, relocateAll_relocateAll f g es]

end

@[simp] theorem unplaced_relocate (e : Expr) : (e.relocate f).unplaced = e.unplaced :=
  relocate_relocate _ f e

@[simp] theorem map_unplaced_relocate (es : List Expr) :
    (es.map (relocate f)).map unplaced = es.map unplaced := by
  rw [List.map_map]
  exact List.map_congr_left fun e _ => unplaced_relocate f e

theorem unplaced_call (n : Nat) (name : String) (es : List Expr) :
    (call n name es).unplaced = call 0 name (es.map unplaced) :=
  congrArg (call 0 name) (relocateAll_eq_map _ es)

theorem relocate_ofWord (n : Nat) (s : String) :
    (ofWord n s).relocate f = ofWord (f n) s := by
  unfold ofWord
  cases Value.readBool? s.toList <;> rfl

theorem relocate_ofNumeral (n : Nat) (s : String) :
    (ofNumeral n s).relocate f = ofNumeral (f n) s := by
  unfold ofNumeral
  cases Value.readNumber? s.toList <;> rfl

theorem relocate_ofQuoted (n : Nat) (s : String) :
    (ofQuoted n s).relocate f = ofQuoted (f n) s := by
  unfold ofQuoted
  split <;> rfl

theorem relocate_joined (op : Connective) (first : Expr) (others : List Expr) :
    (joined op first others).relocate f =
      joined op (first.relocate f) (others.map (relocate f)) := by
  cases others with
  | nil => rfl
  | cons second others =>
      show chain op _ (relocateAll f _) = _
      rw [relocateAll_eq_map]
      rfl

theorem unplaced_joined (op : Connective) (first : Expr) (others : List Expr) :
    (joined op first others).unplaced = joined op first.unplaced (others.map unplaced) :=
  relocate_joined _ op first others

end Expr

theorem Token.operand?_relocate (f : Nat → Nat) (t : Token) :
    (t.relocate f).operand? = t.operand?.map (Expr.relocate f) := by
  obtain ⟨l, n⟩ := t
  cases l with
  | word s => exact congrArg some (Expr.relocate_ofWord f n s).symm
  | quoted s => exact congrArg some (Expr.relocate_ofQuoted f n s).symm
  | numeral s => exact congrArg some (Expr.relocate_ofNumeral f n s).symm
  | _ => rfl

/-! ## §3  Derivations -/

mutual

theorem Derives.relocate (f : Nat → Nat) : ∀ {c d ts e}, Derives c d ts e →
    Derives c d (ts.map (Token.relocate f)) (e.relocate f)
  | _, _, _, _, .expr h => by
      rw [Expr.relocate_joined]
      exact .expr (h.relocate f)
  | _, _, _, _, .conjunction h => by
      rw [Expr.relocate_joined]
      exact .conjunction (h.relocate f)
  | _, _, _, _, .negation h => .negation (h.relocate f)
  | _, _, _, _, .operand h => .operand (h.relocate f)
  | _, _, _, _, .equality hop hl hr => by
      rw [List.map_append, List.map_cons]
      exact .equality hop (hl.relocate f) (hr.relocate f)
  | _, _, _, _, .loneRelation h => .loneRelation (h.relocate f)
  | _, _, _, _, .relation hop hl hr => by
      rw [List.map_append, List.map_cons]
      exact .relation hop (hl.relocate f) (hr.relocate f)
  | _, _, _, _, .lonePrimary h => .lonePrimary (h.relocate f)
  | _, _, _, _, .group h => by
      rw [List.map_cons, List.map_append]
      exact .group (h.relocate f)
  | _, _, _, _, .emptyCall => .emptyCall
  | _, _, _, _, .call h => by
      rw [List.map_cons, List.map_cons, List.map_append, Expr.relocate, Expr.relocateAll_eq_map]
      exact .call (h.relocate f)
  | _, _, _, _, @Derives.token t e h => .token (by rw [Token.operand?_relocate, h]; rfl)

theorem DerivesList.relocate (f : Nat → Nat) : ∀ {sep c d ts first others},
    DerivesList sep c d ts first others →
    DerivesList sep c d (ts.map (Token.relocate f)) (first.relocate f)
      (others.map (Expr.relocate f))
  | _, _, _, _, _, _, .last h => .last (h.relocate f)
  | _, _, _, _, _, _, .more h hs => by
      rw [List.map_append, List.map_cons]
      exact .more (h.relocate f) (hs.relocate f)

end

end BuildCondition
