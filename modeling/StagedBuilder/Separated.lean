/-!
# Lists with separators

Where a list is written with a separator between its items, a separator may follow the last item
too. Whether it does is part of what was written.
-/

namespace StagedBuilder

/-- The items of a list with separators, and whether a separator follows the last of them. -/
structure Separated (α : Type) where
  items : List α
  trailing : Bool
deriving Repr, Inhabited

namespace Separated

variable {α β : Type}

/-- The list with another item in the place of each. -/
def map (f : α → β) (s : Separated α) : Separated β := ⟨s.items.map f, s.trailing⟩

/-- The list with those items first that pass a test. A separator after an item moves with it,
and one is added where two items would meet without it. -/
def leading (test : α → Bool) (s : Separated α) : Separated α :=
  let others := s.items.filter fun a => !test a
  let endsWithLeader := (s.items.getLast?.map test).getD false
  ⟨s.items.filter test ++ others, s.trailing || (endsWithLeader && !others.isEmpty)⟩

end Separated

end StagedBuilder
