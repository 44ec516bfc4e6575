import Sake.Labels
import Sake.Pending

namespace Sake.LabelRouting
open Labels Pending

/-- A message for the server, with the client that causes it and the context of its command. -/
structure Send where
  downstreamID : UInt64
  labelCtx : Option LabelContext
  msg : Message

/-- The label of the command, which its first message takes along. -/
def Send.label (send : Send) : String := (send.labelCtx.map LabelContext.label).getD ""

/-- The message and the number of the next label. The call panics if the command was answered before. -/
def sendMessageLabeled (labeledResponse : Bool) (nextLabelID : UInt64) (send : Send) :
    Option (Message × UInt64 × Option LabelContext) :=
  if send.labelCtx.any fun ctx => ctx.pendingMsg.isSome || ctx.batch != "" then none
  else
    let labelCtx := send.labelCtx.map fun ctx => { ctx with label := "" }
    if labeledResponse then
      let label := formatLabel send.downstreamID.toNat nextLabelID.toNat send.label
      some (withTag send.msg "label" label,nextLabelID + 1,labelCtx)
    else some (send.msg,nextLabelID,labelCtx)

/-- The labels of the messages of a connection, one after the other. -/
def labels (nextLabelID : UInt64) : List Send → List String
  | [] => []
  | send :: rest =>
    match sendMessageLabeled true nextLabelID send with
    | none => []
    | some (msg,next,_) => (msg.tags.get "label").getD "" :: labels next rest

end Sake.LabelRouting
