import BuildCondition.Failure
import BuildCondition.Value

/-!
# Asking the build

Evaluating a condition means asking the build for things: the value of a property, the items of a
type, the value of some metadata, the result of a function. What is asked next may depend on the
answers so far, and on nothing else. So an evaluation is a tree: it is done, or it asks one question
and goes on according to the answer. Every path through the tree is finite.

The state of a build answers every question. Running an evaluation against a state gives the
result and the questions that were asked, in order.
-/

namespace BuildCondition

/-! ## §1  Questions and answers -/

/-- Something to look up. The text behind an item type is its transform and separator; an
unqualified piece of metadata has an empty item. -/
inductive Lookup where
  | property (name : String)
  | items (type rest : String)
  | metadata (item name : String)
  deriving DecidableEq

/-- A question to the build. -/
inductive Query where
  | lookup (l : Lookup)
  | call (name : String) (arguments : List Value)
  deriving DecidableEq

/-- What may be answered: nothing or a text that may still hold escapes, and the value of a
function or its failure. -/
abbrev Query.Answer : Query → Type
  | .lookup _ => Option String
  | .call _ _ => Except Failure Value

/-- A state of the build answers every question. -/
abbrev BuildState := (q : Query) → q.Answer

/-! ## §2  Evaluations -/

/-- An evaluation. -/
inductive Asking (α : Type) where
  | done (result : Except Failure α)
  | ask (q : Query) (go : q.Answer → Asking α)

namespace Asking

variable {α β : Type}

/-- Ends with a result. -/
def ok (a : α) : Asking α := done (.ok a)

/-- Ends with a failure. -/
def fail (f : Failure) : Asking α := done (.error f)

/-- Goes on with the result of the first part, unless that fails. -/
def bind : Asking α → (α → Asking β) → Asking β
  | done (.ok a), next => next a
  | done (.error f), _ => fail f
  | ask q go, next => ask q fun answer => bind (go answer) next

/-- Changes the result. -/
def map (f : α → β) (a : Asking α) : Asking β :=
  a.bind fun x => ok (f x)

/-- Changes the failure. -/
def mapFailure (f : Failure → Failure) : Asking α → Asking α
  | done (.ok a) => ok a
  | done (.error e) => fail (f e)
  | ask q go => ask q fun answer => mapFailure f (go answer)

/-- Looks one thing up; nothing counts as an empty text. -/
def lookUp (l : Lookup) : Asking String :=
  ask (.lookup l) fun answer => ok (answer.getD "")

/-- Calls a function; a failure without a position is put at the call. -/
def call (position : Nat) (name : String) (arguments : List Value) : Asking Value :=
  ask (.call name arguments) fun answer => done (answer.mapError (·.placedAt position))

/-! ## §3  Running -/

/-- The questions asked of a state, behind those in `asked` (which run backwards), and the
result. -/
def runOnto (state : BuildState) (asked : List Query) :
    Asking α → List Query × Except Failure α
  | done result => (asked.reverse, result)
  | ask q go => runOnto state (q :: asked) (go (state q))

/-- The questions asked of a state, and the result. -/
def run (state : BuildState) (a : Asking α) : List Query × Except Failure α :=
  runOnto state [] a

/-- The result against a state. -/
def result (state : BuildState) (a : Asking α) : Except Failure α :=
  (a.run state).2

/-- The result where giving an answer takes an action. -/
def runWith {m : Type → Type} [Monad m] (answer : (q : Query) → m q.Answer) :
    Asking α → m (Except Failure α)
  | done result => pure result
  | ask q go => do
      let a ← answer q
      runWith answer (go a)

end Asking

end BuildCondition
