import Pseudocode.Proofs.Building
import Pseudocode.Proofs.OutputLines
import Pseudocode.Proofs.Startup
import Mathlib.Tactic.Choose

/-!
# Nothing is lost on the way

Each step moves one line along: from the bytes of a stream to its task, from the task into the
queue, from the queue to the receiver. What is taken, queued and still owed of a stream are
therefore its lines in order after every step, whoever takes it, and the receiver is told that there
are no more only when all of them are taken.
-/

namespace Pseudocode.Command

/-! ### What a task owes -/

namespace Forwarder

/-- The lines that a task has yet to send. -/
def owed : Forwarder → List Text
  | reading unread => shownLines unread
  | sending line unread => line :: shownLines unread
  | ended => []

/-- The steps that are taken until every line of a task has reached the receiver. -/
def work : Forwarder → Nat
  | reading unread => 3 * (shownLines unread).length + 1
  | sending _ unread => 3 * (shownLines unread).length + 3
  | ended => 0

lemma read_cases (unread : List UInt8) :
    (read unread = ended ∧ shownLines unread = []) ∨
      ∃ line rest, read unread = sending line rest ∧
        shownLines unread = line :: shownLines rest := by
  obtain ⟨hpiece, rfl⟩ | ⟨hpiece, hlines⟩ := readPiece_shownLines unread
  · exact .inl ⟨rfl, rfl⟩
  · exact .inr ⟨_, _, if_neg (by simpa using hpiece), hlines⟩

lemma owed_read (unread : List UInt8) : (read unread).owed = shownLines unread := by
  obtain ⟨hread, hlines⟩ | ⟨line, rest, hread, hlines⟩ := read_cases unread
  · rw [hread, hlines, owed]
  · rw [hread, hlines, owed]

lemma work_read (unread : List UInt8) : (read unread).work + 1 = (reading unread).work := by
  obtain ⟨hread, hlines⟩ | ⟨line, rest, hread, hlines⟩ := read_cases unread
  · rw [hread, work, work, hlines, List.length_nil]
  · rw [hread, work, work, hlines, List.length_cons]
    omega

end Forwarder

namespace Relay

variable {r r' : Relay}

/-! ### Steps -/

/-- What a step does, by who takes it and in which state. -/
inductive Step (r : Relay) : Turn → Relay → Prop
  | reads {s : Stream} {unread : List UInt8} (htask : r.forwarder s = .reading unread) :
      Step r (.forwarder s) (r.setForwarder s (.read unread))
  | sends {s : Stream} {line : Text} {unread : List UInt8}
      (htask : r.forwarder s = .sending line unread) :
      Step r (.forwarder s) ((r.setForwarder s (.reading unread)).push (s, line))
  | takes {item : Stream × Text} {queue : List (Stream × Text)} (hqueue : r.queue = item :: queue) :
      Step r .receiver { r with queue, received := r.received ++ [item] }
  | closes (hqueue : r.queue = []) (hopen : r.closed = false)
      (hended : ∀ s, r.forwarder s = .ended) : Step r .receiver { r with closed := true }

lemma forwarder_setForwarder_self (r : Relay) (s : Stream) (f : Forwarder) :
    (r.setForwarder s f).forwarder s = f := by
  simp only [setForwarder, Function.update_self]

lemma forwarder_setForwarder_of_ne (r : Relay) {s t : Stream} (h : t ≠ s) (f : Forwarder) :
    (r.setForwarder s f).forwarder t = r.forwarder t := by
  simp only [setForwarder, Function.update_of_ne h]

lemma linesOf_append (s : Stream) (items more : List (Stream × Text)) :
    linesOf s (items ++ more) = linesOf s items ++ linesOf s more := List.filterMap_append

lemma linesOf_self (s : Stream) (line : Text) : linesOf s [(s, line)] = [line] := by
  simp [linesOf]

lemma linesOf_of_ne {s t : Stream} (h : t ≠ s) (line : Text) : linesOf s [(t, line)] = [] := by
  simp [linesOf, h]

/-- The lines of a stream that are taken, queued and owed, in this order. -/
def account (r : Relay) (s : Stream) : List Text :=
  r.lines s ++ linesOf s r.queue ++ (r.forwarder s).owed

lemma account_setForwarder_of_ne (r : Relay) {s t : Stream} (h : t ≠ s) (f : Forwarder) :
    (r.setForwarder s f).account t = r.account t := by
  rw [account, forwarder_setForwarder_of_ne r h]
  rfl

lemma account_setForwarder_self (r : Relay) (s : Stream) (f : Forwarder) :
    (r.setForwarder s f).account s = r.lines s ++ linesOf s r.queue ++ f.owed := by
  rw [account, forwarder_setForwarder_self]
  rfl

lemma account_push_of_ne (r : Relay) {s t : Stream} (h : s ≠ t) (line : Text) :
    (r.push (s, line)).account t = r.account t := by
  rw [account, push, linesOf_append, linesOf_of_ne h, List.append_nil]
  rfl

lemma account_push_self (r : Relay) (s : Stream) (line : Text) :
    (r.push (s, line)).account s =
      r.lines s ++ linesOf s r.queue ++ line :: (r.forwarder s).owed := by
  rw [account, push, linesOf_append, linesOf_self]
  simp only [List.append_assoc, List.singleton_append]
  rfl

/-- No step loses a line, takes it twice or puts it before another of its stream. -/
lemma Step.account_eq {turn : Turn} (h : Step r turn r') (t : Stream) :
    r'.account t = r.account t := by
  cases h with
  | @reads s unread htask =>
    by_cases hts : t = s
    · subst hts
      rw [account_setForwarder_self, Forwarder.owed_read, account, htask, Forwarder.owed]
    · exact account_setForwarder_of_ne r hts _
  | @sends s line unread htask =>
    by_cases hts : t = s
    · subst hts
      rw [account_push_self, forwarder_setForwarder_self, account, htask, Forwarder.owed,
        Forwarder.owed]
      rfl
    · rw [account_push_of_ne _ (Ne.symm hts), account_setForwarder_of_ne r hts]
  | @takes item queue hqueue =>
    simp only [account, lines, hqueue, linesOf_append]
    rw [← List.singleton_append (l := queue), linesOf_append]
    simp only [List.append_assoc]
  | closes => rfl

/-- The steps that are taken until the receiver is told that there are no more lines. -/
def work (r : Relay) : Nat :=
  (r.forwarder .output).work + (r.forwarder .errors).work + r.queue.length + (!r.closed).toNat

lemma work_setForwarder (r : Relay) (s : Stream) (f : Forwarder) :
    (r.setForwarder s f).work + (r.forwarder s).work = r.work + f.work := by
  cases s with
  | output =>
    rw [work, work, forwarder_setForwarder_self, forwarder_setForwarder_of_ne r (by decide)]
    simp only [setForwarder]
    omega
  | errors =>
    rw [work, work, forwarder_setForwarder_self, forwarder_setForwarder_of_ne r (by decide)]
    simp only [setForwarder]
    omega

lemma work_push (r : Relay) (item : Stream × Text) : (r.push item).work = r.work + 1 := by
  simp only [work, push, List.length_append, List.length_singleton]
  omega

/-- Every step is one step less to take. -/
lemma Step.work_eq {turn : Turn} (h : Step r turn r') : r'.work + 1 = r.work := by
  cases h with
  | @reads s unread htask =>
    have hset := work_setForwarder r s (.read unread)
    have hread := Forwarder.work_read unread
    rw [htask] at hset
    omega
  | @sends s line unread htask =>
    have hset := work_setForwarder r s (.reading unread)
    rw [htask, Forwarder.work, Forwarder.work] at hset
    rw [work_push]
    omega
  | takes hqueue =>
    simp only [work, hqueue, List.length_cons]
    omega
  | closes hqueue hopen hended =>
    rw [work, work, hopen]
    rfl

/-! ### Runs -/

/-- What holds of a relay after a schedule: no line is lost, each turn is counted, and the receiver
is told of the end only at the end. -/
structure Reached (written : Stream → List UInt8) (schedule : List Turn) (r : Relay) : Prop where
  account : ∀ s, r.account s = shownLines (written s)
  work : schedule.length + r.work = (start written).work
  closed : r.closed = true → r.queue = [] ∧ ∀ s, r.forwarder s = .ended

variable {written : Stream → List UInt8} {schedule : List Turn}

lemma Reached.step {turn : Turn} (hr : Reached written schedule r) (h : Step r turn r') :
    Reached written (schedule ++ [turn]) r' where
  account s := (h.account_eq s).trans (hr.account s)
  work := by
    have hwork := hr.work
    have hstep := h.work_eq
    rw [List.length_append, List.length_singleton]
    omega
  closed hclosed := by
    -- once closed, only a task that has not ended or a line in the queue could allow a step
    cases h with
    | @reads s unread htask =>
      obtain ⟨-, hended⟩ := hr.closed hclosed
      cases htask.symm.trans (hended s)
    | @sends s line unread htask =>
      obtain ⟨-, hended⟩ := hr.closed hclosed
      cases htask.symm.trans (hended s)
    | takes hqueue =>
      obtain ⟨hempty, -⟩ := hr.closed hclosed
      cases hqueue.symm.trans hempty
    | closes hqueue hopen hended => exact ⟨hqueue, hended⟩

end Relay

/-! ### Running a program -/

/-- What an ended program has written to a stream. -/
def Stream.bytes (ran : Ended) : Stream → List UInt8
  | output => ran.output
  | errors => ran.errors

def Stream.shown (o : Outcome) : Stream → Text
  | output => o.output
  | errors => o.errors

end Pseudocode.Command
