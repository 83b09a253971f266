import Morphology.Rule.Morph

/-!
# Flow of captures and tags

Before a program is run, all its paths are followed: a capture must be opened before it is
closed and closed before it is used, and a path that reaches the end must have a tag. Where
branches come together, only what holds on each of them is known to hold.
-/

namespace Morphology

/-- What holds on every path to some place of a program. -/
structure Flow where
  opened : List UInt8 := []
  closed : List UInt8 := []
  tagged : Bool := false

namespace Flow

/-- What holds on both of two sets of paths. -/
def meet (a b : Flow) : Flow where
  opened := a.opened.filter b.opened.contains
  closed := a.closed.filter b.closed.contains
  tagged := a.tagged && b.tagged

/-- Opening a capture again makes it unusable until it is closed again. -/
def openCapture (flow : Flow) (id : UInt8) : Flow :=
  { flow with opened := flow.opened.insert id, closed := flow.closed.filter (· != id) }

def closeCapture (flow : Flow) (id : UInt8) : Except Defect Flow :=
  if flow.opened.contains id then .ok { flow with closed := flow.closed.insert id }
  else .error (.unknownCapture id)

/-- Uses a capture, which must be closed. -/
def useCapture (flow : Flow) (id : UInt8) : Except Defect Flow :=
  if flow.closed.contains id then .ok flow else .error (.unknownCapture id)

def setTag (flow : Flow) : Flow := { flow with tagged := true }

/-- What holds when the paths so far, if any, come together with the paths of a branch. -/
def join (known : Option Flow) (branch : Option Flow) : Option Flow :=
  match known, branch with
  | none, b => b
  | a, none => a
  | some a, some b => some (a.meet b)

mutual

/-- What holds after an instruction; nothing, when no path goes on from there. -/
def afterInstruction (flow : Flow) : Instruction → Except Defect (Option Flow)
  | .openCapture id => .ok (some (flow.openCapture id))
  | .closeCapture id => (flow.closeCapture id).map some
  | .lookup id => (flow.useCapture id).map fun flow ↦ some flow.setTag
  | .assign _ (.capture id) => (flow.useCapture id).map some
  | .tag _ => .ok (some flow.setTag)
  | .choice branches => afterBranches flow none branches
  | .read _ => .ok (some flow)
  | .unify _ => .ok (some flow)
  | .assign _ (.constant _) => .ok (some flow)
  | .assign _ .surface => .ok (some flow)

/-- What holds after a program. What no path reaches is not looked at. -/
def afterProgram (flow : Flow) : List Instruction → Except Defect (Option Flow)
  | [] => .ok (some flow)
  | i :: rest =>
    match afterInstruction flow i with
    | .error defect => .error defect
    | .ok none => .ok none
    | .ok (some flow) => afterProgram flow rest

/-- What holds after one or another branch, besides those already followed. -/
def afterBranches (flow : Flow) (known : Option Flow) :
    List (List Instruction) → Except Defect (Option Flow)
  | [] => .ok known
  | branch :: rest =>
    match afterProgram flow branch with
    | .error defect => .error defect
    | .ok exit => afterBranches flow (join known exit) rest

end

/-- Checks all paths of a program; `tagged` tells whether its morphs have a tag anyway. -/
def check (program : Program) (tagged : Bool) : Except Defect Unit :=
  match afterProgram { tagged } program with
  | .error defect => .error defect
  | .ok none => .ok ()
  | .ok (some exit) => if exit.tagged then .ok () else .error .missingTag

end Flow

end Morphology
