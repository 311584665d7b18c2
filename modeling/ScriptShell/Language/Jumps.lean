import ScriptShell.Language.Syntax

/-!
# Jumps and their targets

A `break` needs a loop, a switch or its label around it, a `continue` a loop or its label, within
the same function. `illegalJump?` finds the first jump that has none.
-/

namespace ScriptShell.Language

/-- What a jump may refer to at some place. -/
structure JumpTargets where
  inLoop : Bool := false
  inSwitch : Bool := false
  labels : List String := []

/-- The text of the error for a jump, if it has no target. -/
def jumpError? (targets : JumpTargets) : Statement → Option String
  | .breaks none =>
    if targets.inLoop || targets.inSwitch then none else some "illegal break statement"
  | .continues none => if targets.inLoop then none else some "illegal continue statement"
  | .breaks (some label) =>
    if targets.labels.contains label then none else some ("undefined break target: " ++ label)
  | .continues (some label) =>
    if targets.labels.contains label then none else some ("undefined continue target: " ++ label)
  | _ => none

mutual

/-- The error for the first jump in a statement that has no target. -/
def Statement.illegalJump? (targets : JumpTargets) : Statement → Option String
  | .branch _ consequent alternative =>
    (consequent.illegalJump? targets).or
      (match alternative with
        | some statement => statement.illegalJump? targets
        | none => none)
  | .whileLoop _ body => body.illegalJump? { targets with inLoop := true }
  | .doLoop body _ => body.illegalJump? { targets with inLoop := true }
  | .forLoop _ _ _ body => body.illegalJump? { targets with inLoop := true }
  | .forEach _ _ _ _ body => body.illegalJump? { targets with inLoop := true }
  | .attempt body handler finalizer =>
    (illegalJump? targets body).or
      ((match handler with
        | some (_, body) => illegalJump? targets body
        | none => none).or
      (match finalizer with
        | some body => illegalJump? targets body
        | none => none))
  | .block body => illegalJump? targets body
  | .switch _ cases => caseIllegalJump? { targets with inSwitch := true } cases
  | .labelled label body =>
    body.illegalJump? { targets with labels := label :: targets.labels }
  | .scoped _ body => body.illegalJump? targets
  | statement => jumpError? targets statement

/-- The error for the first jump in statements that has no target. -/
def illegalJump? (targets : JumpTargets) : List Statement → Option String
  | [] => none
  | statement :: rest => (statement.illegalJump? targets).or (illegalJump? targets rest)

/-- The error for the first jump in the cases of a switch that has no target. -/
def caseIllegalJump? (targets : JumpTargets) :
    List (Option Expression × List Statement) → Option String
  | [] => none
  | (_, body) :: rest => (illegalJump? targets body).or (caseIllegalJump? targets rest)

end

end ScriptShell.Language
