import AgentsAssemble.Browser.Timeouts

/-!
# The room socket client: frames and new commands

What a frame does to the queue: an answer settles its command or asks for
another attempt, and a snapshot opens the way for a round.
-/

namespace AgentsAssemble.Browser

open Foundation

variable {Payload Result : Type}

namespace RoomSocket

variable {s t : RoomSocket Payload Result} {requestId : String}
  {command : PendingRoomCommand Payload} {connection : Connection} {live : Prop} {now : Nat}
  {sends : String → Bool} {d : RoomSocketDependencies Payload Result}

/-! ## Answers -/

theorem Queue.armed (h : Queue live [] s) (hlive : live)
    (hcommand : s.pending.lookup requestId = some command) : s.Armed command := by
  rcases h.awaits hlive requestId command hcommand with harmed | ⟨hmem, -⟩
  · exact harmed
  · exact nomatch hmem

/-- The leave of the participant commits: the close of the connection will end the client. -/
def leave (connection : Connection) : Connection :=
  { connection with terminalLeaveCommitted := true }

end RoomSocket

end AgentsAssemble.Browser
