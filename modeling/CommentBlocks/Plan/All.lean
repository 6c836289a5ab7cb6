import CommentBlocks.Plan.Basic
import CommentBlocks.Worker.Phase

namespace CommentBlocks.Plan

def inputField (place : Nat) : String := "inputs[" ++ toString place ++ "]"

def ofInput (d : Disk) (ls : Languages) (place : Nat) (input : Option Selection) :
    Except Issue Plan :=
  match input with
  | none => .error (.inField (inputField place) (.message (.just .required)))
  | some s => (ofSelection d ls s).mapError (Issue.within (inputField place))

def ofInputsFrom (d : Disk) (ls : Languages) (place : Nat) :
    List (Option Selection) → Except Issue (List Plan)
  | [] => .ok []
  | input :: rest =>
    match ofInput d ls place input with
    | .error i => .error i
    | .ok plan => (ofInputsFrom d ls (place + 1) rest).map (plan :: ·)

def ofInputs (d : Disk) (ls : Languages) (inputs : List (Option Selection)) :
    Except Issue (List Plan) :=
  if inputs.isEmpty then .error (.inField "inputs" (.message (.just .required)))
  else ofInputsFrom d ls 0 inputs

def jobs (p : Plan) : List Job := p.files.map (⟨p, ·⟩)

end CommentBlocks.Plan
