import AgentFlow.Text.Basic

/-!
# Branch tags

The tag of an edge says which outcome of its source node the edge belongs to.  A case tag carries
the number of the case; its text may end in a line break, which makes it another tag.
-/

namespace AgentFlow.Workflow

inductive Tag where
  | plain
  | yes
  | no
  | loopBody
  | loopExit
  | approve
  | reject
  | case (index : Nat)
  | brokenCase (index : Nat)
deriving DecidableEq, Repr

namespace Tag

def text : Tag → Text
  | plain => "none"
  | yes => "true"
  | no => "false"
  | loopBody => "loopBody"
  | loopExit => "loopExit"
  | approve => "approve"
  | reject => "reject"
  | case index => "case" ++ Text.ofNat index
  | brokenCase index => "case" ++ Text.ofNat index ++ "\n"

/-- The tags that are not cases. -/
def fixed : List Tag := [plain, yes, no, loopBody, loopExit, approve, reject]

/-- The number that decimal digits without leading zeros spell. -/
def caseIndex? (digits : Text) : Option Nat :=
  if digits.isEmpty || !digits.all CodePoint.isAsciiDigit then none
  else if 1 < digits.length && digits.head? = some ('0' : CodePoint) then none
  else some (digits.foldl (fun n c => n * 10 + (c.toNat - 0x30)) 0)

def ofText? (t : Text) : Option Tag :=
  match fixed.find? (·.text = t) with
  | some tag => some tag
  | none =>
    if t.startsWith "case" then
      let rest : Text := t.drop 4
      let digits := Text.dropLineBreak rest
      (caseIndex? digits).map fun index =>
        if digits.length = rest.length then case index else brokenCase index
    else none

end Tag

end AgentFlow.Workflow
