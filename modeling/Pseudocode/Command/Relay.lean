import Pseudocode.Command.Launch
import Mathlib.Logic.Function.Basic

/-!
# Passing output on

While a launched program works, its output and its errors are each read by a task of its own. A task
reads a line, sends it into the one queue that both tasks share, and goes on until its stream ends.
The receiver takes lines from the other end of the queue, and is told that there are no more when
both tasks have ended and the queue is empty. Which of the three takes a step is not settled here:
it is given as a schedule.
-/

namespace Pseudocode.Command

/-- The streams that a program writes. -/
inductive Stream where
  | output
  | errors
deriving DecidableEq

/-- Reads up to and including the next line feed, or to the end: what is read, and what is left. -/
def readPiece : List UInt8 → List UInt8 × List UInt8
  | [] => ([], [])
  | b :: bytes =>
    if b = 10 then ([b], bytes) else (b :: (readPiece bytes).1, (readPiece bytes).2)

/-- A piece without the line feed at its end. -/
def dropLastFeed (piece : List UInt8) : List UInt8 :=
  if piece.getLast? = some 10 then piece.dropLast else piece

/-- The line that is sent for a piece. -/
def pieceLine (piece : List UInt8) : Text := shownLine (dropLastFeed piece)

/-- A task that passes a stream on. -/
inductive Forwarder where
  | reading (unread : List UInt8)
  /-- A line has been read and is not in the queue yet. -/
  | sending (line : Text) (unread : List UInt8)
  | ended
deriving DecidableEq

/-- The task after it has read: at the end of its stream there is nothing to read, and it ends. -/
def Forwarder.read (unread : List UInt8) : Forwarder :=
  let (piece, rest) := readPiece unread
  if piece.isEmpty then .ended else .sending (pieceLine piece) rest

/-- The tasks, the queue between them and the receiver, and what the receiver has taken. -/
structure Relay where
  forwarder : Stream → Forwarder
  queue : List (Stream × Text)
  received : List (Stream × Text)
  /-- Whether the receiver has been told that there are no more lines. -/
  closed : Bool

/-- Who takes a step. -/
inductive Turn where
  | forwarder (stream : Stream)
  | receiver
deriving DecidableEq

namespace Relay

/-- Nothing has been read. -/
def start (written : Stream → List UInt8) : Relay := ⟨fun s => .reading (written s), [], [], false⟩

/-- The relay with another state of a task. -/
def setForwarder (r : Relay) (s : Stream) (f : Forwarder) : Relay :=
  { r with forwarder := Function.update r.forwarder s f }

/-- The relay with one more line at the end of the queue. -/
def push (r : Relay) (item : Stream × Text) : Relay := { r with queue := r.queue ++ [item] }

/-- One step, unless whoever's turn it is has to wait or has ended. -/
def step (r : Relay) : Turn → Option Relay
  | .forwarder s =>
    match r.forwarder s with
    | .reading unread => some (r.setForwarder s (.read unread))
    | .sending line unread =>
      some ((r.setForwarder s (.reading unread)).push (s, line))
    | .ended => none
  | .receiver =>
    match r.queue with
    | item :: queue => some { r with queue, received := r.received ++ [item] }
    | [] =>
      if r.closed = false ∧ r.forwarder .output = .ended ∧ r.forwarder .errors = .ended then
        some { r with closed := true }
      else none

/-- The steps of a schedule, if each can be taken. -/
def run (r : Relay) (schedule : List Turn) : Option Relay := schedule.foldlM step r

def linesOf (s : Stream) (items : List (Stream × Text)) : List Text :=
  items.filterMap fun item => if item.1 = s then some item.2 else none

/-- The lines of a stream that the receiver has taken. -/
def lines (r : Relay) (s : Stream) : List Text := linesOf s r.received

end Relay
end Pseudocode.Command
