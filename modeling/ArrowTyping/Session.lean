import ArrowTyping.Typing.Check

set_option autoImplicit false

/-!
# Sessions

A session is a list of environments that only ever grows.  It begins with the empty environment
alone.  A request names one of the listed environments by its number; it either asks something
about that environment or extends it, and the extended environment joins the list under the next
number.  An environment in the list is never changed, so extending one environment does not
show in any other.

`trails` tells the same history without environments: for each number the scopes that were put
inside one another on the way there.
-/

namespace ArrowTyping

/-- What may be asked of an environment. -/
inductive Request where
  /-- Put a scope inside the environment. -/
  | extend (scope : Scope)
  | lookup (name : String)
  /-- Look a name up that is used at a place. -/
  | fetch (name : String) (position : Position)
  | depth
  | infer (term : Term Span)
  | check (term : Term Span)
  deriving Repr

/-- The answer to a request, one form for each kind of request. -/
inductive Answer where
  /-- The number and the depth of the environment that joined the list. -/
  | extended (env depth : Nat)
  | found (type : Option Ty)
  | fetched (result : Except TypeError Ty)
  | counted (depth : Nat)
  | inferred (result : Except TypeError Ty)
  | checked (result : Except TypeError (Term Typed))

/-- The environments that requests may name, each by its place in the list. -/
structure Session where
  envs : List Env
  deriving Repr

namespace Session

/-- A session that nothing has been asked yet. -/
def start : Session := ⟨[.empty]⟩

/-- Puts one request to one environment.  The numbers in use are those of the list; a request to
any other number has no answer. -/
def ask (s : Session) (number : Nat) (request : Request) : Option (Session × Answer) :=
  s.envs[number]?.map fun env =>
    match request with
    | .extend scope =>
      let child := env.extend scope
      (⟨s.envs ++ [child]⟩, .extended s.envs.length child.depth)
    | .lookup name => (s, .found (env.lookup? name))
    | .fetch name position => (s, .fetched (env.fetch name position))
    | .depth => (s, .counted env.depth)
    | .infer term => (s, .inferred (term.infer env))
    | .check term => (s, .checked (term.check env))

/-- Puts requests one after the other and collects the answers. -/
def run (s : Session) : List (Nat × Request) → Option (Session × List Answer)
  | [] => some (s, [])
  | (number, request) :: requests => do
    let (s, answer) ← s.ask number request
    let (s, answers) ← s.run requests
    return (s, answer :: answers)

/-! ## The history without environments -/

/-- What one request does to the trails: an extension adds the trail of its environment with the
new scope at the end, and nothing else changes them. -/
def follow (trails : List (List Scope)) : Nat × Request → List (List Scope)
  | (number, .extend scope) =>
    match trails[number]? with
    | some trail => trails ++ [trail ++ [scope]]
    | none => trails
  | _ => trails

/-- For each environment that a history leads to, the scopes on the way to it from the empty
environment, outermost first. -/
def trails (history : List (Nat × Request)) : List (List Scope) := history.foldl follow [[]]

end Session

end ArrowTyping
