import AgentSphere.Contracts.Basic
import AgentSphere.Lib.ServerSentEvents

/-!
# The event stream of a task

`stream_task` answers with the events of a snapshot as a `text/event-stream`. Each event is written
behind `data: ` as it is. An event with an end of a line in it is read back shorter, and what it
says after that line is read as fields of its own.
-/

namespace AgentSphere.Gateway

open ServerSentEvents

/-- The body of the response of `stream_task`. -/
def streamTask (maxStreamEvents : Nat) (events : List String) : String :=
  String.join ((events.take maxStreamEvents).map fun event => "data: " ++ event ++ "\n\n")

def parseEventStream (body : String) : List String := (parse body.toList).map String.ofList

theorem toList_streamTask (maxStreamEvents : Nat) (events : List String) :
    (streamTask maxStreamEvents events).toList =
      ((events.take maxStreamEvents).map String.toList).flatMap block := by
  rw [streamTask, String.toList_join, List.flatMap_map, List.flatMap_map]
  refine List.flatMap_congr fun event _ => ?_
  rw [String.toList_append, String.toList_append]
  rfl

/-- **Event streams.** For every snapshot, a client reads exactly the first events of it, with
their contents, exactly if none of them contains a line feed or a carriage return. -/
theorem stream_task_iff (maxStreamEvents : Nat) (events : List String) :
    parseEventStream (streamTask maxStreamEvents events) = events.take maxStreamEvents ↔
      ∀ event ∈ events.take maxStreamEvents, '\n' ∉ event.toList ∧ '\r' ∉ event.toList := by
  have htexts : (∀ event ∈ events.take maxStreamEvents, IsLine event.toList) ↔
      ∀ text ∈ (events.take maxStreamEvents).map String.toList, IsLine text :=
    List.forall_mem_map.symm
  have hread : parseEventStream (streamTask maxStreamEvents events) =
      events.take maxStreamEvents ↔ parse (streamTask maxStreamEvents events).toList =
        (events.take maxStreamEvents).map String.toList := by
    constructor
    · intro h
      have hlists := congrArg (List.map String.toList) h
      rw [parseEventStream, List.map_map] at hlists
      refine (List.map_id _).symm.trans ((List.map_congr_left fun text _ => ?_).trans hlists)
      exact String.toList_ofList.symm
    · intro h
      rw [parseEventStream, h, List.map_map]
      refine (List.map_congr_left fun event _ => ?_).trans (List.map_id _)
      exact String.ofList_toList
  rw [hread, toList_streamTask, parse_flatMap_block_iff, ← htexts]
  rfl

/-- Of an event of two lines a client reads the first. -/
theorem two_lines_cut : parseEventStream (streamTask 100 ["a\nb"]) ≠ ["a\nb"].take 100 := by
  decide

/-- What comes after the line is read as a field: it can bring a line of another message. -/
example : parseEventStream (streamTask 100 ["a\n\ndata: b", "c"]) = ["a", "b", "c"] := by
  decide

end AgentSphere.Gateway
