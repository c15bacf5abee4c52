/-
Scripted actors: a message says what its receiver does.
-/

import Tabulation.Mailbox.System

namespace Tabulation.Mailbox

/-- What the receiver of a message does, once it has put the message on the record. -/
inductive Command where
  | fail
  | crash
  | block
  | forward (address : String)
  | self
  | stop
  | spawn
  | nothing
deriving Repr, DecidableEq

def Command.ofName (name address : String) : Command :=
  match name with
  | "fail" => .fail
  | "panic" => .crash
  | "block" => .block
  | "forward" => .forward address
  | "self" => .self
  | "stop" => .stop
  | "spawn" => .spawn
  | _ => .nothing

structure Cue where
  /-- The name of the command. -/
  name : String
  command : Command
  text : String
  key : String := ""
  isControl : Bool := false
  typeName : String
deriving Repr, DecidableEq

instance : Letter Cue where
  isControl := Cue.isControl
  key := Cue.key
  typeName := Cue.typeName

def Cue.plain (typeName text key : String) : Cue :=
  { name := "note", command := .nothing, text, key, typeName }

/-- What the receiver of a message does. Messages that it sends are called `noteType` in log lines. -/
def Cue.react (noteType : String) (cue : Cue) : Reaction Cue :=
  let seen : Deed Cue := .record (cue.name ++ " " ++ cue.text)
  match cue.command with
  | .fail => { deeds := [seen], failure := some (.failed cue.text) }
  | .crash => { deeds := [seen], failure := some (.crashed cue.text) }
  | .block => { deeds := [seen], waits := true }
  | .forward address => { deeds := [seen, .send address (.plain noteType cue.text cue.key)] }
  | .self => { deeds := [seen, .sendSelf (.plain noteType cue.text "")] }
  | .stop => { deeds := [seen, .stop] }
  | .spawn => { deeds := [seen, .spawn cue.text] }
  | .nothing => { deeds := [seen] }

def startOf (word : String) : Option (Reaction Cue) :=
  match word with
  | "" => none
  | "fail" => some { deeds := [.record "prestart"], failure := some (.failed "prestart failed") }
  | "panic" => some { deeds := [.record "prestart"], failure := some (.crashed "prestart panic") }
  | _ => some { deeds := [.record "prestart"] }

/-- What a scripted actor does after a failure: it goes on the record, and this may fail in turn. -/
def recoverOf (word : String) : Option (Cue → Failure → Reaction Cue) :=
  if word == "" then none
  else some fun _ failure =>
    { deeds := [.record ("exception " ++ failure.message)]
      failure := if word == "panic" then some (.crashed "handler") else none }

def scripted (noteType start recover : String) : Role Cue where
  start := startOf start
  receive := Cue.react noteType
  recover := recoverOf recover

/-- Handles all messages. Each message leads to at most one more, which leads to none. -/
def System.settleScript (system : System Cue) : System Cue :=
  system.settle (2 * system.pending.length)

end Tabulation.Mailbox
