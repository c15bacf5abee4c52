/-
Dead stores: definitions whose value is never read. The facts are the definitions that reach a
statement; a definition is dead if it reaches no statement that reads its variable.
-/

import Tabulation.Analysis.Basic

namespace Tabulation

/-- A definition that reaches a statement, or the fact that holds wherever a method is reachable. -/
inductive Definition where
  | reachable
  | of (name : String) (site : Statement)
deriving Repr, DecidableEq, Inhabited, Hashable

def Definition.text : Definition → String
  | .reachable => "0"
  | .of name site => name ++ "@" ++ site.text

instance : Shown Definition where
  text := Definition.text
  typeName := "definition"

namespace DeadStore

def runner : String := "dead-store"

def rule : String := "dead-store"

/-- The variable that a statement writes. The empty name stands for none. -/
def definedAt (p : Program) (s : Statement) : String :=
  ((p.instruction? s).map Instruction.defines).getD ""

/-- The definition at a statement, if there is one. -/
def definitionAt (p : Program) (s : Statement) : List Definition :=
  if definedAt p s == "" then [] else [.of (definedAt p s) s]

/-- A statement adds its definition and ends the earlier ones of the same variable. -/
def sequent (p : Program) (current _next : Statement) (fact : Definition) : List Definition :=
  match fact with
  | .reachable => .reachable :: definitionAt p current
  | .of name _ => if name == definedAt p current then [] else [fact]

/-- A call is a statement like others, and only reachability enters the callees. -/
def call (p : Program) (place returnSite : Statement) (fact : Definition) :
    List (CallAction Definition) :=
  let kept := (sequent p place returnSite fact).map CallAction.toReturn
  match fact with
  | .reachable => .toCallees .reachable :: kept
  | .of .. => kept

/-- Reachability enters callees and leaves them; definitions stay in their method. -/
def across (fact : Definition) : List Definition :=
  match fact with
  | .reachable => [.reachable]
  | .of .. => []

def rules (p : Program) : Rules Statement Definition MethodName where
  runner := runner
  graph := p.flowGraph
  flow :=
    { sequent := sequent p
      call := call p
      callToStart := fun _ _ => across
      exitToReturn := fun _ _ _ => across }
  startFacts _ := [.reachable]

/-- The definitions that reach some statement, each once. -/
def definitions (data : Solution Statement Definition) : List (String × Statement) :=
  Text.distinct (data.facts.filterMap fun v =>
    match v.fact with
    | .reachable => none
    | .of name site => some (name, site))

def isRead (p : Program) (data : Solution Statement Definition) (name : String) (site : Statement) :
    Bool :=
  data.facts.any fun v =>
    v.fact == .of name site &&
      ((p.instruction? v.statement).map Instruction.uses).any fun uses => uses.contains name

/-- The order of definitions: by the name of the method, the position and the variable. -/
def definitionBefore (a b : String × Statement) : Bool :=
  if Text.textBefore a.2.method.text b.2.method.text then true
  else if Text.textBefore b.2.method.text a.2.method.text then false
  else if a.2.position != b.2.position then Nat.blt a.2.position b.2.position
  else Text.textBefore a.1 b.1

/-- The findings: the definitions that reach no statement that reads them. -/
def deadStores (p : Program) (data : Solution Statement Definition) :
    List (Finding Statement Definition) :=
  let dead := (definitions data).filter fun d => !isRead p data d.1 d.2
  (Text.sortBy definitionBefore dead).map fun (name, site) =>
    ⟨⟨site, .of name site⟩, rule, "value assigned to " ++ name ++ " is never used"⟩

def analyze (p : Program) (config : Config) (entries : List MethodName) :
    Except AnalysisError (AnalysisResult Definition) := do
  let (status, data) ← p.analyze config entries (rules p)
  return { status, findings := deadStores p data, data }

end DeadStore

end Tabulation
