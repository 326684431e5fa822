import TwinEditor.Autosave.Pipeline

/-!
# Mailboxes

A subscriber to the events of a machine gets them through a mailbox. The mailbox has room for a fixed
number of events. When more are put into it, the oldest are lost and only counted.
-/

namespace TwinEditor
namespace Autosave

/-- The events that a subscriber has not taken yet, the oldest first. -/
structure Mailbox where
  lost : Nat
  events : List Event
  deriving Repr, DecidableEq

namespace Mailbox

/-- How many events there is room for. -/
def capacity : Nat := 32

/-- The mailbox with nothing in it. -/
def empty : Mailbox :=
  ⟨0, []⟩

/-- Put an event into the mailbox. -/
def put (mailbox : Mailbox) (event : Event) : Mailbox :=
  let events := mailbox.events ++ [event]
  let excess := events.length - capacity
  ⟨mailbox.lost + excess, events.drop excess⟩

theorem length_events_put_le (mailbox : Mailbox) (event : Event) :
    (mailbox.put event).events.length ≤ capacity := by
  simp only [put, List.length_drop]
  omega

end Mailbox
end Autosave
end TwinEditor
