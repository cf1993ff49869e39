import BulkLoad.Bytes

/-!
The bounded queue before the standard input of a process. Records are handed in at one end, and a
pump takes them out at the other, writing each in as many parts as the process will take. The pump
stops at the first write that fails, or after the end of the queue.
-/

namespace BulkLoad.Sink

/-- A queue with its pump. -/
structure Queue where
  /-- The most records that wait; never zero. -/
  capacity : Nat
  /-- The records that the pump has not taken yet. -/
  waiting : List Bytes := []
  /-- What is left of the record that the pump has taken. -/
  current : Bytes := []
  /-- No record comes any more. -/
  ended : Bool := false
  /-- How the pump stopped. -/
  outcome : Option (Except String Unit) := none

namespace Queue

/-- A queue without records; it takes at least one. -/
def start (capacity : Nat) : Queue := { capacity := max capacity 1 }

/-- What comes of a record that is handed in. -/
inductive Offered where
  | taken (queue : Queue)
  | full
  /-- The pump has stopped. -/
  | closed

/-- Hands a record in. -/
def offer (q : Queue) (record : Bytes) : Offered :=
  if q.outcome.isSome then .closed
  else if q.waiting.length < q.capacity then .taken { q with waiting := q.waiting ++ [record] }
  else .full

/-- Says that no record comes any more. -/
def finish (q : Queue) : Queue := { q with ended := true }

/-- What the pump does next. -/
inductive Work where
  /-- Nothing, until there is a record or an end. -/
  | rest
  /-- Takes the next record. -/
  | take (record : Bytes) (waiting : List Bytes)
  /-- Writes some of the record that it has. -/
  | write (bytes : Bytes)
  /-- Closes the standard input of the process. -/
  | close
  | stopped

/-- The next work of the pump. -/
def work (q : Queue) : Work :=
  if q.outcome.isSome then .stopped
  else if q.current.isEmpty then
    match q.waiting with
    | record :: waiting => .take record waiting
    | [] => if q.ended then .close else .rest
  else .write q.current

/-- The pump has taken a record. -/
def took (q : Queue) (record : Bytes) (waiting : List Bytes) : Queue :=
  { q with current := record, waiting }

/-- The pump has written the first `n` bytes of what it has. -/
def wrote (q : Queue) (n : Nat) : Queue := { q with current := q.current.drop n }

/-- The pump has stopped; what waits is lost unless there was nothing. -/
def stop (q : Queue) (outcome : Except String Unit) : Queue := { q with outcome := some outcome }

end Queue
end BulkLoad.Sink
