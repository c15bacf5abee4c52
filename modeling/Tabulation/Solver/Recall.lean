/-
The callees of calls when overrides are remembered: those of a declared callee are looked for once, for
whatever call and whatever runner.
-/

import Tabulation.Memo
import Tabulation.Solver.Dispatch

namespace Tabulation.Dispatch

variable {S F M : Type} [DecidableEq M]

/-- The overrides found so far, by the declared callee. -/
abbrev Overrides (M : Type) := Memo M (List M)

/-- The methods that a declared callee stands for. Overrides are looked for only if the call is
virtual and the declared callee is not left out. -/
def recallTargets (dispatch : Dispatch S M) (site : CallSite M) (known : Overrides M) (declared : M) :
    List M × Overrides M :=
  if dispatch.bans declared then ([], known)
  else if !site.isVirtual then ([declared], known)
  else
    let (overrides, known) := known.ask dispatch.overrides declared
    let kept := overrides.filter fun method =>
      !dispatch.bans method && dispatch.isCompatible site.receiverType method
    (declared :: kept, known)

/-- The methods that declared callees stand for, one after the other. -/
def recallAll (dispatch : Dispatch S M) (site : CallSite M) (known : Overrides M) :
    List M → List M × Overrides M
  | [] => ([], known)
  | declared :: rest =>
    let (targets, known) := dispatch.recallTargets site known declared
    let (others, known) := dispatch.recallAll site known rest
    (targets ++ others, known)

/-- The callees of a call, each once. -/
def recallCallees (dispatch : Dispatch S M) (known : Overrides M) (site : CallSite M) :
    List M × Overrides M :=
  let (targets, known) := dispatch.recallAll site known site.callees
  (Text.distinct targets, known)

def recallAt (dispatch : Dispatch S M) (known : Overrides M) (s : S) : Resolution M × Overrides M :=
  match dispatch.callSite s with
  | none => (.noCallSite, known)
  | some site =>
    let (callees, known) := dispatch.recallCallees known site
    (.callees callees, known)

/-- The answer to the question for the callees of the call at the target of an edge: one message for
each callee. -/
def recallAnswer (dispatch : Dispatch S M) (known : Overrides M) (runner : String) (edge : Edge S F) :
    List (Message S F M) × Overrides M :=
  let (resolution, known) := dispatch.recallAt known edge.target.statement
  (resolution.methods.map (.resolvedCall runner edge), known)

/-- What a dispatch is asked: the callees of a call, or the answer to a runner. -/
inductive Question (S F M : Type) where
  | callees (site : CallSite M)
  | answer (runner : String) (edge : Edge S F)
deriving Repr, DecidableEq

def learn (dispatch : Dispatch S M) (known : Overrides M) : Question S F M → Overrides M
  | .callees site => (dispatch.recallCallees known site).2
  | .answer runner edge => (dispatch.recallAnswer (F := F) known runner edge).2

/-- The overrides that are known after some questions, when none were known before. -/
def learned (dispatch : Dispatch S M) (questions : List (Question S F M)) : Overrides M :=
  questions.foldl dispatch.learn {}

end Tabulation.Dispatch
