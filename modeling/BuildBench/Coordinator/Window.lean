import BuildBench.Entry.Id

set_option autoImplicit false

/-! The ids of the entries that were finished last. A bounded number of them is remembered, so that
entries that are delivered again can be told from new ones. -/

namespace BuildBench.Coordinator

open BuildBench.Entry

def windowCapacity : Nat := 1024

/-- Remembered ids, the one finished last first. -/
structure Window where
  ids : List Id
  distinct : ids.Nodup
  bounded : ids.length ≤ windowCapacity

namespace Window

def empty : Window where
  ids := []
  distinct := List.nodup_nil
  bounded := Nat.zero_le _

def contains (window : Window) (id : Id) : Bool :=
  window.ids.contains id

/-- Remembers an id and, if there is no room, forgets the oldest one. An id that is remembered
keeps its place. -/
def insert (window : Window) (id : Id) : Window :=
  if known : id ∈ window.ids then window
  else
    { ids := (id :: window.ids).take windowCapacity
      distinct := (List.nodup_cons.mpr ⟨known, window.distinct⟩).sublist (List.take_sublist _ _)
      bounded := List.length_take_le _ _ }

end Window

end BuildBench.Coordinator
