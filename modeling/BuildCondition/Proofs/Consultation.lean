import BuildCondition.Condition
import BuildCondition.Proofs.Host
import BuildCondition.Proofs.Template

/-!
# Evaluating against a host

An evaluation can be carried out against a host as it goes along: each part asks what it has to ask,
uses the answer on the spot, and ends the whole if it fails (§1). So the values of expressions are
found by going through their trees, with the host at hand (§2). All that is asked, and what comes of
it, are the same as in a conversation with the host about the evaluation as a whole (§3).
-/

namespace BuildCondition

/-! ## §1  Consultations -/

/-- Something that is done while a host is at hand. From what has been asked before, it comes to
what has been asked then, and a result or a failure. -/
def Consultation (α : Type) :=
  List Query → List Query × Except Failure α

/-- What comes next is done if there has been no failure. -/
instance : Monad Consultation where
  pure x := fun asked => (asked, .ok x)
  bind first next := fun asked =>
    match first asked with
    | (asked, .ok x) => next x asked
    | (asked, .error f) => (asked, .error f)

namespace Consultation

variable {α β : Type}

/-- Ends with a result or a failure that is known. -/
def conclude (result : Except Failure α) : Consultation α :=
  fun asked => (asked, result)

/-- Asks the host. -/
def query (host : Host) (q : Query) : Consultation q.Answer :=
  fun asked => (asked ++ [q], .ok (host asked q))

/-- Changes the failure. -/
def mapFailure (f : Failure → Failure) (c : Consultation α) : Consultation α :=
  fun asked => ((c asked).1, (c asked).2.mapError f)

theorem bind_of_ok {first : Consultation α} {next : α → Consultation β} {asked asked' : List Query}
    {x : α} (h : first asked = (asked', .ok x)) : (first >>= next) asked = next x asked' := by
  show (match first asked with
    | (asked, .ok x) => next x asked
    | (asked, .error f) => (asked, .error f)) = _
  rw [h]

theorem bind_of_error {first : Consultation α} {next : α → Consultation β}
    {asked asked' : List Query} {f : Failure} (h : first asked = (asked', .error f)) :
    (first >>= next) asked = (asked', .error f) := by
  show (match first asked with
    | (asked, .ok x) => next x asked
    | (asked, .error f) => (asked, .error f)) = _
  rw [h]

/-- Looks one thing up; nothing counts as an empty text. -/
def lookUp (host : Host) (l : Lookup) : Consultation String := do
  let answer ← query host (.lookup l)
  return answer.getD ""

end Consultation

open Consultation

/-! ## §2  Going through the trees -/

namespace Template

/-- Fills in a text while it is read, behind what is in `done` (which runs backwards). The first
`covered` characters belong to a reference that has been filled in. -/
def fillFrom (host : Host) (done : List Char) (covered : Nat) :
    List Char → Consultation (List Char)
  | [] => return done.reverse
  | c :: cs =>
      match covered with
      | covered + 1 => fillFrom host done covered cs
      | 0 =>
          match Reference.startingWith? c cs with
          | some r => do
              let raw ← lookUp host r.lookup
              fillFrom host (raw.toList.reverseAux done) (r.width - 1) cs
          | none => fillFrom host (c :: done) 0 cs

/-- The text of a template: references replaced, then escapes resolved. -/
def fillWith (host : Host) (text : String) : Consultation String := do
  let filled ← fillFrom host [] 0 text.toList
  return String.ofList (Percent.unescape filled)

end Template

namespace Expr

/-- The truth value of what stands at `offset`, which has to have one. -/
def truthWith (offset : Nat) (value : Value) : Consultation Bool :=
  match value.asBool? with
  | some b => return b
  | none => conclude (.error (Failure.foundAt .notBoolean (offset + 1) value.asText))

mutual

/-- The value of an expression. -/
def valueWith (host : Host) : Expr → Consultation Value
  | literal _ v _ => return v
  | template _ s => do
      let text ← Template.fillWith host s
      return .text text
  | reference _ r => do
      let raw ← lookUp host r.lookup
      return .text (String.ofList (Percent.unescape raw.toList))
  | call offset name arguments => do
      let vs ← valuesWith host arguments
      let answer ← query host (.call name vs)
      conclude (answer.mapError (·.placedAt (offset + 1)))
  | not _ e => do
      let v ← valueWith host e
      let b ← truthWith e.offset v
      return .bool !b
  | comparison op left right => do
      let v ← valueWith host left
      let w ← valueWith host right
      conclude ((Operand.compare op (asOperand left v) (asOperand right w)).map .bool)
  | chain op first others => do
      let v ← valueWith host first
      let b ← truthWith first.offset v
      if b = op.decisive then return .bool b
      chainWith host op others

/-- The values of arguments, until one fails. -/
def valuesWith (host : Host) : List Expr → Consultation (List Value)
  | [] => return []
  | e :: es => do
      let v ← valueWith host e
      let vs ← valuesWith host es
      return v :: vs

/-- The value of the rest of a chain that is not settled yet. -/
def chainWith (host : Host) (op : Connective) : List Expr → Consultation Value
  | [] => return .bool !op.decisive
  | e :: es => do
      let v ← valueWith host e
      let b ← truthWith e.offset v
      if b = op.decisive then return .bool b
      chainWith host op es

end

/-- The truth value of an expression. -/
def evaluateWith (host : Host) (e : Expr) : Consultation Bool := do
  let v ← valueWith host e
  truthWith e.offset v

end Expr

/-- Whether a condition holds. -/
def Condition.evaluateWith (host : Host) (mode : Mode) (limit : Nat) (place : Location)
    (condition : String) : Consultation Bool :=
  if condition = "" then return true
  else mapFailure (·.withSource condition place) do
    let e ← conclude (Expr.parse mode limit condition)
    e.evaluateWith host

/-! ## §3  The same as a conversation -/

namespace Asking

variable {α β : Type} (host : Host)

/-- A conversation about an evaluation. -/
def consult (a : Asking α) : Consultation α :=
  fun past => a.converse host past

theorem consult_bind (a : Asking α) (next : α → Asking β) :
    (a.bind next).consult host = a.consult host >>= fun x => (next x).consult host := by
  funext past
  induction a generalizing past with
  | done result => cases result <;> rfl
  | ask q go ih => exact ih (host past q) (past ++ [q])

theorem consult_map (f : α → β) (a : Asking α) :
    (a.map f).consult host = a.consult host >>= fun x => pure (f x) :=
  consult_bind host a _

theorem consult_mapFailure (f : Failure → Failure) (a : Asking α) :
    (a.mapFailure f).consult host = (a.consult host).mapFailure f := by
  funext past
  induction a generalizing past with
  | done result => cases result <;> rfl
  | ask q go ih => exact ih (host past q) (past ++ [q])

end Asking

open Asking

variable (host : Host)

namespace Template

theorem fillFrom_eq (done : List Char) (covered : Nat) (cs : List Char) :
    fillFrom host done covered cs = (fillOnto done (piecesFrom [] covered cs)).consult host := by
  induction cs generalizing done covered with
  | nil => rfl
  | cons c cs ih =>
      cases covered with
      | succ covered => exact ih done covered
      | zero =>
          rw [fillFrom, piecesFrom]
          cases Reference.startingWith? c cs with
          | none =>
              simp only []
              rw [piecesFrom_done, ih]
              rfl
          | some r =>
              simp only []
              rw [piecesFrom_done]
              show _ = ((Asking.lookUp r.lookup).bind _).consult host
              rw [consult_bind]
              simp only [ih]
              rfl

theorem fillWith_eq (text : String) : fillWith host text = (fill text).consult host := by
  rw [fillWith, fillFrom_eq, fill, consult_map]
  rfl

end Template

namespace Expr

theorem truthWith_eq (offset : Nat) (v : Value) :
    truthWith offset v = (truthOf offset v).consult host := by
  unfold truthWith truthOf
  cases v.asBool? <;> rfl

/-- What is done with the truth value of an expression. -/
theorem bind_truthWith {α : Type} {e : Expr} (h : valueWith host e = e.value.consult host)
    (next : Bool → Asking α) :
    (valueWith host e >>= fun v => truthWith e.offset v >>= fun b => (next b).consult host) =
      ((e.value.bind fun v => truthOf e.offset v).bind next).consult host := by
  rw [bind_assoc, consult_bind, h]
  simp only [consult_bind, truthWith_eq host]

/-- A truth value that settles a chain is its value. -/
theorem consult_settled (op : Connective) (b : Bool) (more : Asking Value) :
    (if b = op.decisive then Asking.ok (.bool b) else more).consult host =
      if b = op.decisive then pure (.bool b) else more.consult host := by
  split <;> rfl

mutual

theorem valueWith_eq : ∀ e : Expr, valueWith host e = e.value.consult host
  | literal _ _ _ => rfl
  | template _ s => by
      rw [valueWith, Template.fillWith_eq, value, consult_map]
  | reference _ r => by
      rw [valueWith, value, Reference.fill, Asking.map, map_bind, consult_bind]
      rfl
  | call offset name arguments => by
      rw [valueWith, valuesWith_eq arguments, value, consult_bind]
      rfl
  | not _ e => by
      rw [valueWith, value, Asking.map, ← bind_truthWith host (valueWith_eq e)]
      rfl
  | comparison op left right => by
      rw [valueWith, valueWith_eq left, valueWith_eq right, value, consult_bind]
      simp only [consult_bind]
      rfl
  | chain op first others => by
      rw [valueWith, value, ← bind_truthWith host (valueWith_eq first)]
      simp only [consult_settled, chainWith_eq op others]

theorem valuesWith_eq : ∀ es : List Expr, valuesWith host es = (values es).consult host
  | [] => rfl
  | e :: es => by
      rw [valuesWith, valueWith_eq e, valuesWith_eq es, values, consult_bind]
      simp only [consult_map]

theorem chainWith_eq (op : Connective) :
    ∀ es : List Expr, chainWith host op es = (chainValue op es).consult host
  | [] => rfl
  | e :: es => by
      rw [chainWith, chainValue, ← bind_truthWith host (valueWith_eq e)]
      simp only [consult_settled, chainWith_eq op es]

end

theorem evaluateWith_eq (e : Expr) : e.evaluateWith host = e.evaluate.consult host := by
  rw [evaluateWith, evaluate, consult_bind, valueWith_eq]
  simp only [truthWith_eq host]

end Expr

/-- A condition that is evaluated against a host asks what it asks in a conversation, and comes to
the same. -/
theorem Condition.evaluateWith_eq (mode : Mode) (limit : Nat) (place : Location)
    (condition : String) (asked : List Query) :
    Condition.evaluateWith host mode limit place condition asked =
      (Condition.evaluate mode limit place condition).converse host asked := by
  unfold Condition.evaluateWith Condition.evaluate Condition.parse
  by_cases hempty : condition = ""
  · rw [if_pos hempty, if_pos hempty]
    rfl
  · rw [if_neg hempty, if_neg hempty]
    cases Expr.parse mode limit condition with
    | error f => rfl
    | ok e =>
        show (e.evaluateWith host).mapFailure _ asked = (e.evaluate.mapFailure _).consult host asked
        rw [e.evaluateWith_eq, consult_mapFailure]

end BuildCondition
