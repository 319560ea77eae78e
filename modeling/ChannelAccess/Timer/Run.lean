import ChannelAccess.Timer.Basic

/-!
# Running the tasks of a timer

`Timer.runUntil` runs one task after the other, each in full before the next, until none is due by a
given moment. Time passes only while the timer waits for its next task.
-/

namespace ChannelAccess.Timer

variable {τ σ : Type}

/-- Runs tasks that are due by a moment, at most `fuel` of them. What a task does to the state, and
after what delay it is to run again, is given by `run`. Also says what time it is afterwards. -/
def runUntil (run : σ → TimerEntry τ → Option Duration × σ) (limit : Moment) :
    (fuel : Nat) → Timer τ → Moment → σ → Timer τ × Moment × σ
  | 0, timer, now, state => (timer, now, state)
  | fuel + 1, timer, now, state =>
    match timer.nextDue? with
    | none => (if timer.stopped then timer else timer.discardCancelled, now, state)
    | some due =>
      if due ≤ limit then
        let now := max now due
        let timer := timer.takeDue now
        match timer.running with
        | none => (timer, now, state)
        | some entry =>
          let (again, state) := run state entry
          runUntil run limit fuel (timer.putBack now again) now state
      else (timer.discardCancelled, now, state)

end ChannelAccess.Timer
