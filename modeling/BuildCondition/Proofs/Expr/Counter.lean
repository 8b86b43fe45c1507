import BuildCondition.Proofs.Expr.Simulation

/-!
# Counting the levels

How many levels a parser has left is handed down to it, so that there is nothing to restore. It
comes to the same if there is one counter for the whole condition, which is raised where a level is
entered and lowered where it is left, and which stays raised when something fails (§1). Whatever the
parsers do, the counter is back where it was when they succeed, and never below (§2). So it is never
lowered from zero, and the conditions and failures are the same as before (§3).
-/

namespace BuildCondition.Expr

variable {α β : Type}

/-! ## §1  Parsers with a counter -/

/-- Takes what it needs from the tokens that are left, and moves the counter. There is no outcome if
the counter is lowered from zero, or if the parsers call each other more often than there is room
for. -/
abbrev Counted (α : Type) := Nat → List Token → Option (Nat × Except Failure (α × List Token))

namespace Counted

/-- Goes on with what another parser has found, and with its counter. -/
def bind (p : Counted α) (g : α → Counted β) : Counted β := fun depth ts =>
  (p depth ts).bind fun
    | (depth, .ok (x, rest)) => g x depth rest
    | (depth, .error f) => some (depth, .error f)

/-- Leaves the counter where it is. -/
def still (p : Parse α) : Counted α := fun depth ts => some (depth, p ts)

/-- Has found something already. -/
def ok (x : α) : Counted α := still fun ts => .ok (x, ts)

/-- Raises the counter, and fails if that is beyond the limit. -/
def enter (s : Surroundings) : Counted Unit := fun depth ts =>
  some (depth + 1, if s.limit < depth + 1 then s.tooDeep ts else .ok ((), ts))

/-- Lowers the counter. -/
def leave : Counted Unit := fun depth ts =>
  match depth with
  | 0 => none
  | depth + 1 => some (depth, .ok ((), ts))

/-- A level around a parser. -/
def level (s : Surroundings) (p : Counted α) : Counted α :=
  (enter s).bind fun _ => p.bind fun x => leave.bind fun _ => ok x

def expect (s : Surroundings) (l : Lexeme) : Counted Unit :=
  still fun ts => (s.expect l ts).map fun rest => ((), rest)

def furtherItems (separator : Lexeme) (item : Counted Expr) (n : Nat) (done : List Expr) :
    Counted (List Expr) := fun depth ts =>
  match n with
  | 0 => ok done.reverse depth ts
  | n + 1 =>
      match ts with
      | [] => ok done.reverse depth []
      | t :: more =>
          if t.lexeme = separator then
            (item.bind fun e => furtherItems separator item n (e :: done)) depth more
          else ok done.reverse depth (t :: more)

def items (s : Surroundings) (separator : Lexeme) (item : Counted Expr) :
    Counted (Expr × List Expr) :=
  item.bind fun first => (furtherItems separator item s.count []).bind fun others =>
    ok (first, others)

def arguments (s : Surroundings) (inside : Counted Expr) : Counted (List Expr) := fun depth ts =>
  match ts with
  | ⟨.rightParen, _⟩ :: more => ok [] depth more
  | _ =>
      ((items s .comma inside).bind fun found =>
        (expect s .rightParen).bind fun _ => ok (found.1 :: found.2)) depth ts

def primary (s : Surroundings) (inside : Counted Expr) : Counted Expr := fun depth ts =>
  match ts with
  | [] => still s.unexpected depth []
  | t :: more =>
      match t.lexeme with
      | .leftParen => (inside.bind fun e => (expect s .rightParen).bind fun _ => ok e) depth more
      | .functionName name =>
          ((expect s .leftParen).bind fun _ => (arguments s inside).bind fun es =>
            ok (call t.offset name es)) depth more
      | _ =>
          match t.operand? with
          | some e => ok e depth more
          | none => still s.unexpected depth (t :: more)

/-- What a comparison does behind its left operand. -/
def behindLeft (accepted : Comparison → Bool) (operand : Counted Expr) (left : Expr) :
    Counted Expr := fun depth ts =>
  match ts with
  | ⟨.comparison op, _⟩ :: more =>
      if accepted op then (operand.bind fun right => ok (comparison op left right)) depth more
      else ok left depth ts
  | _ => ok left depth ts

def compared (accepted : Comparison → Bool) (operand : Counted Expr) : Counted Expr :=
  operand.bind (behindLeft accepted operand)

def equality (s : Surroundings) (inside : Counted Expr) : Counted Expr :=
  compared Comparison.isEquality (compared (fun op => !op.isEquality) (primary s inside))

def chained (s : Surroundings) (op : Connective) (operand : Counted Expr) : Counted Expr :=
  (items s (.connective op) operand).bind fun found => ok (joined op found.1 found.2)

def alternatives (s : Surroundings) (operand : Counted Expr) : Counted Expr :=
  chained s .or (chained s .and operand)

def operandWith (s : Surroundings) (negated inside : Counted Expr) : Counted Expr :=
  fun depth ts =>
    match ts with
    | ⟨.not, offset⟩ :: more => (negated.bind fun e => ok (not offset e)) depth more
    | _ => equality s inside depth ts

/-- The grammar's `operand`, with room for so many calls. -/
def operand (s : Surroundings) (room : Nat) : Counted Expr :=
  match room with
  | 0 => fun _ _ => none
  | room + 1 =>
      operandWith s (level s (operand s room)) (level s (alternatives s (operand s room)))

/-- The grammar's `expr`. -/
def expr (s : Surroundings) (room : Nat) : Counted Expr :=
  level s (alternatives s (operand s room))

/-- The counter and the expression of all tokens of a condition. -/
def ofLexed (room limit : Nat) (l : Lexed) : Option (Nat × Except Failure Expr) :=
  let s : Surroundings := ⟨limit, l.ending, l.tokens.length⟩
  (expr s room 0 l.tokens).map fun (depth, result) => (depth, result.bind s.finish)

/-- The counter and the expression that a condition is. -/
def parse (room : Nat) (mode : Mode) (limit : Nat) (condition : String) :
    Option (Nat × Except Failure Expr) :=
  ofLexed room limit (lex mode condition.toList)

end Counted

/-! ## §2  The counter is kept -/

/-- There is an outcome, it is `result`, and the counter has not fallen below `depth`, where it is
again unless something has failed. -/
def Keeps (depth : Nat) (outcome : Option (Nat × Except Failure α)) (result : Except Failure α) :
    Prop :=
  ∃ after, outcome = some (after, result) ∧ depth ≤ after ∧ ∀ x, result = .ok x → after = depth

namespace Keeps

variable {s : Surroundings} {depth : Nat} {ts : List Token} {f : Failure}

theorem still (p : Parse α) : Keeps depth (Counted.still p depth ts) (p ts) :=
  ⟨depth, rfl, Nat.le_refl _, fun _ _ => rfl⟩

theorem ok (x : α) : Keeps depth (Counted.ok x depth ts) (.ok (x, ts)) :=
  still fun ts => .ok (x, ts)

theorem bind {p : Counted α} {g : α → Counted β} {r : Except Failure (α × List Token)}
    {q : α → Parse β} (hp : Keeps depth (p depth ts) r)
    (hg : ∀ x rest, Keeps depth (g x depth rest) (q x rest)) :
    Keeps depth (p.bind g depth ts) (r.bind fun (x, rest) => q x rest) := by
  obtain ⟨after, houtcome, hle, hback⟩ := hp
  rw [Counted.bind, houtcome, Option.bind_some]
  cases r with
  | error f => exact ⟨after, rfl, hle, fun x hx => by cases hx⟩
  | ok found =>
      obtain rfl := hback found rfl
      exact hg found.1 found.2

theorem map {p : Counted α} {r : Except Failure (α × List Token)} (g : α → β)
    (hp : Keeps depth (p depth ts) r) :
    Keeps depth ((p.bind fun x => Counted.ok (g x)) depth ts)
      (r.map fun (x, rest) => (g x, rest)) := by
  have hmap : (r.map fun (x, rest) => (g x, rest)) = r.bind fun (x, rest) => .ok (g x, rest) := by
    cases r <;> rfl
  rw [hmap]
  exact hp.bind fun x rest => ok (g x)

/-- Beyond the limit, a level is not entered. -/
theorem tooDeep {p : Counted α} (h : s.limit ≤ depth) :
    Keeps depth (Counted.level s p depth ts) (s.tooDeep ts) := by
  refine ⟨depth + 1, ?_, Nat.le_succ depth, fun x hx => absurd hx Surroundings.tooDeep_ne_ok⟩
  rw [Counted.level, Counted.bind, Counted.enter, if_pos (Nat.lt_succ_of_le h)]
  cases hhere : s.here ts <;> simp [Surroundings.tooDeep, hhere, Except.bind]

/-- What is inside a level finds the counter raised, and leaves it so unless it fails. -/
theorem level {p : Counted α} {r : Except Failure (α × List Token)} (h : depth < s.limit)
    (hp : Keeps (depth + 1) (p (depth + 1) ts) r) :
    Keeps depth (Counted.level s p depth ts) r := by
  obtain ⟨after, houtcome, hle, hback⟩ := hp
  have hentered : Counted.level s p depth ts =
      (p.bind fun x => Counted.leave.bind fun _ => Counted.ok x) (depth + 1) ts := by
    rw [Counted.level, Counted.bind, Counted.enter, if_neg (Nat.not_lt.mpr h)]
    rfl
  rw [hentered, Counted.bind, houtcome]
  cases r with
  | error f => exact ⟨after, rfl, Nat.le_of_succ_le hle, fun x hx => by cases hx⟩
  | ok found =>
      obtain rfl := hback found rfl
      exact ⟨depth, rfl, Nat.le_refl _, fun _ _ => rfl⟩

theorem expect (l : Lexeme) :
    Keeps depth (Counted.expect s l depth ts) ((s.expect l ts).map fun rest => ((), rest)) :=
  still fun ts => (s.expect l ts).map fun rest => ((), rest)

/-- What has been found, if what has to follow it does. -/
theorem followed (l : Lexeme) (x : α) :
    Keeps depth (((Counted.expect s l).bind fun _ => Counted.ok x) depth ts)
      ((s.expect l ts).map fun rest => (x, rest)) := by
  have hexpected : Keeps depth (Counted.expect s l depth ts) _ := expect l
  have hfollowed := hexpected.map fun _ => x
  cases hexpect : s.expect l ts <;> rw [hexpect] at hfollowed <;> exact hfollowed

section Grammar

variable {p : Counted Expr} {q : Parse Expr} (hp : ∀ ts, Keeps depth (p depth ts) (q ts))

include hp

theorem furtherItems (separator : Lexeme) (n : Nat) (done : List Expr) (ts : List Token) :
    Keeps depth (Counted.furtherItems separator p n done depth ts)
      (Surroundings.furtherItems separator q n done ts) := by
  induction n generalizing done ts with
  | zero => exact ok done.reverse
  | succ n ih =>
      cases ts with
      | nil => exact ok done.reverse
      | cons t more =>
          unfold Counted.furtherItems
          by_cases ht : t.lexeme = separator
          · rw [Surroundings.furtherItems_of_eq ht]
            simp only [if_pos ht]
            exact (hp more).bind fun e rest => ih (e :: done) rest
          · rw [Surroundings.furtherItems_of_ne ht]
            simp only [if_neg ht]
            exact ok done.reverse

theorem items (separator : Lexeme) (ts : List Token) :
    Keeps depth (Counted.items s separator p depth ts) (s.items separator q ts) :=
  (hp ts).bind fun first rest =>
    (furtherItems hp separator s.count [] rest).map fun others => (first, others)

theorem arguments (ts : List Token) :
    Keeps depth (Counted.arguments s p depth ts) (s.arguments q ts) := by
  have hitems : Keeps depth (Counted.items s .comma p depth ts) (s.items .comma q ts) :=
    items hp .comma ts
  have hlist := hitems.bind fun found _ => followed (s := s) .rightParen (found.1 :: found.2)
  cases ts with
  | nil => exact hlist
  | cons t more =>
      obtain ⟨l, n⟩ := t
      cases l with
      | rightParen => exact ok []
      | _ => exact hlist

theorem primary (ts : List Token) :
    Keeps depth (Counted.primary s p depth ts) (s.primary q ts) := by
  cases ts with
  | nil => exact still s.unexpected
  | cons t more =>
      obtain ⟨l, n⟩ := t
      cases l with
      | leftParen => exact (hp more).bind fun e rest => followed .rightParen e
      | functionName name =>
          rw [Simulation.primary_functionName]
          exact (expect .leftParen).bind fun _ rest => (arguments hp rest).map (call n name)
      | word text => exact ok (ofWord n text)
      | quoted text => exact ok (ofQuoted n text)
      | numeral text => exact ok (ofNumeral n text)
      | reference r => exact ok (Expr.reference n r)
      | _ => exact still s.unexpected

theorem behindLeft (accepted : Comparison → Bool) (left : Expr) (ts : List Token) :
    Keeps depth (Counted.behindLeft accepted p left depth ts)
      (Simulation.behindLeft accepted q left ts) := by
  cases ts with
  | nil => exact ok left
  | cons t more =>
      obtain ⟨l, n⟩ := t
      cases l with
      | comparison op =>
          unfold Counted.behindLeft Simulation.behindLeft
          by_cases hop : accepted op = true
          · simp only [if_pos hop]
            exact (hp more).map (comparison op left)
          · simp only [if_neg hop]
            exact ok left
      | _ => exact ok left

theorem compared (accepted : Comparison → Bool) (ts : List Token) :
    Keeps depth (Counted.compared accepted p depth ts) (Surroundings.compared accepted q ts) :=
  (hp ts).bind fun left rest => behindLeft hp accepted left rest

theorem equality (ts : List Token) :
    Keeps depth (Counted.equality s p depth ts) (s.equality q ts) :=
  compared (compared (primary hp) _) _ ts

theorem chained (op : Connective) (ts : List Token) :
    Keeps depth (Counted.chained s op p depth ts) (s.chained op q ts) :=
  (items hp (.connective op) ts).map fun (found : Expr × List Expr) => joined op found.1 found.2

theorem alternatives (ts : List Token) :
    Keeps depth (Counted.alternatives s p depth ts) (s.alternatives q ts) :=
  chained (chained hp .and) .or ts

end Grammar

theorem operandWith {negated inside : Counted Expr} {q q' : Parse Expr}
    (hnegated : ∀ ts, Keeps depth (negated depth ts) (q ts))
    (hinside : ∀ ts, Keeps depth (inside depth ts) (q' ts)) (ts : List Token) :
    Keeps depth (Counted.operandWith s negated inside depth ts) (s.operandWith q q' ts) := by
  have hequality : Keeps depth (Counted.equality s inside depth ts) (s.equality q' ts) :=
    equality hinside ts
  cases ts with
  | nil => exact hequality
  | cons t more =>
      obtain ⟨l, n⟩ := t
      cases l with
      | not => exact (hnegated more).map (Expr.not n)
      | _ => exact hequality

/-- As many levels as are left of the limit may be entered, and one call more may be made. -/
theorem operand {levels room : Nat} (hlimit : depth + levels = s.limit) (hroom : levels < room)
    (ts : List Token) : Keeps depth (Counted.operand s room depth ts) (s.operand levels ts) := by
  induction levels generalizing depth room ts with
  | zero =>
      obtain ⟨k, rfl⟩ : ∃ k, room = k + 1 := Nat.exists_eq_add_one.mpr hroom
      have hfull : s.limit ≤ depth := Nat.le_of_eq hlimit.symm
      exact operandWith (fun _ => tooDeep hfull) (fun _ => tooDeep hfull) ts
  | succ levels ih =>
      obtain ⟨k, rfl⟩ : ∃ k, room = k + 1 := Nat.exists_eq_add_one.mpr (by omega)
      have hfree : depth < s.limit := by omega
      have hdeeper : ∀ ts, Keeps (depth + 1) (Counted.operand s k (depth + 1) ts)
          (s.operand levels ts) :=
        ih (by omega) (by omega)
      exact operandWith (fun ts => level hfree (hdeeper ts))
        (fun ts => level hfree (alternatives hdeeper ts)) ts

theorem expr {levels room : Nat} (hlimit : depth + levels = s.limit) (hroom : levels ≤ room)
    (ts : List Token) : Keeps depth (Counted.expr s room depth ts) (s.expr levels ts) := by
  cases levels with
  | zero => exact tooDeep (Nat.le_of_eq hlimit.symm)
  | succ levels =>
      have hfree : depth < s.limit := by omega
      exact level hfree (alternatives (operand (by omega) (by omega)) ts)

end Keeps

/-! ## §3  Whole conditions -/

/-- **The counter is never lowered from zero.** With room for as many calls as there are levels,
there is an outcome, and it is what the condition is or fails with. Where it is an expression, every
level that has been entered has been left again. -/
theorem counted_ofLexed {room limit : Nat} (hroom : limit ≤ room) (l : Lexed) :
    ∃ depth, Counted.ofLexed room limit l = some (depth, ofLexed limit l) ∧
      ∀ e, ofLexed limit l = .ok e → depth = 0 := by
  let s : Surroundings := ⟨limit, l.ending, l.tokens.length⟩
  have hkeeps : Keeps 0 (Counted.expr s room 0 l.tokens) (s.expr limit l.tokens) :=
    Keeps.expr (Nat.zero_add limit) hroom l.tokens
  obtain ⟨depth, houtcome, _, hback⟩ := hkeeps
  refine ⟨depth, ?_, fun e he => ?_⟩
  · show (Counted.expr s room 0 l.tokens).map _ = _
    rw [houtcome]
    rfl
  · obtain ⟨found, hfound, _⟩ := bind_eq_ok.mp he
    exact hback found hfound

end BuildCondition.Expr
