import HarborGate.Gateway.SessionUpdates

/-!
Whom a route key leads to. `register_route` writes over whatever the key led to before, so a key
keeps its chat as long as nobody registers it for another one.
-/

namespace HarborGate

namespace Inbound

open Interleave

/-- The platform and the chat that notifications under a route reach. -/
def routeChat (route : Json) : Option Json × Option Json :=
  (route.get "platform", route.get "chat_id")

/-- Every key that leads to a chat in the first world leads to the same chat in the second. -/
def KeepsChats (first last : InboundWorld) : Prop :=
  ∀ key route, first.resolveRoute key = some route →
    ∃ moved, last.resolveRoute key = some moved ∧ routeChat moved = routeChat route

theorem KeepsChats.trans {first second third : InboundWorld} (earlier : KeepsChats first second)
    (later : KeepsChats second third) : KeepsChats first third := by
  intro key route found
  obtain ⟨middle, reached, same⟩ := earlier key route found
  obtain ⟨moved, last, kept⟩ := later key middle reached
  exact ⟨moved, last, kept.trans same⟩

/-- The key and the route that an operation has registered. -/
def registered : (op : InboundOp) → InboundAns op → Option (String × Json)
  | .registerRoute key route, .ok _ => some (key, route)
  | _, _ => none

section Steps

variable {host : Inbox.Host} {world after : InboundWorld} {choice : InboundChoice}

end Steps

/-! ## Runs -/

/-- From every point of a history on, the keys that lead to a chat keep it. -/
def RoutesKeepChats {setup : Setup} (trace : List (inboundMachine setup).Event) : Prop :=
  ∀ earlier first later, trace = earlier ++ first :: later →
    ∀ event ∈ first :: later, KeepsChats first.before event.after

theorem RoutesKeepChats.at {setup : Setup} {events : List (inboundMachine setup).Event}
    (keeps : RoutesKeepChats events) {start later : Nat} {first event : (inboundMachine setup).Event}
    (found : events[start]? = some first) (reached : events[later]? = some event)
    (order : start ≤ later) : KeepsChats first.before event.after := by
  obtain ⟨bound, same⟩ := List.getElem?_eq_some_iff.mp found
  refine keeps (events.take start) first (events.drop (start + 1)) ?_ event ?_
  · rw [← same, List.getElem_cons_drop, List.take_append_drop]
  · rw [← same, List.getElem_cons_drop]
    refine List.mem_iff_getElem?.mpr ⟨later - start, ?_⟩
    rw [List.getElem?_drop, Nat.add_sub_cancel' order]
    exact reached

end Inbound

end HarborGate
