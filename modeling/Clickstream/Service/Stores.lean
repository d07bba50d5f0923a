import Clickstream.Calendar.ZoneTable
import Clickstream.Event.Store
import Clickstream.Profile.Store
import Clickstream.Service.Basic

/-!
# A service over stores in memory

A store of events and a store of profiles, and the service that answers from them. Both are empty
when they are opened. The service itself is over any database of zones; here, where it runs, the
zones are those of `ZoneTable`.
-/

namespace Clickstream

/-- The two stores of a service, and the clock of the store of events. -/
structure Stores where
  events : EventStore
  profiles : ProfileStore
  clock : Timestamp

namespace Stores

/-- Open and empty stores. -/
def empty (clock : Timestamp) : Stores :=
  ⟨.empty, .empty, clock⟩

/-- Closed stores. -/
def closed (stores : Stores) : Stores :=
  { stores with events := none, profiles := none }

/-- Opens the stores that are closed. -/
def opened (stores : Stores) : Stores :=
  { stores with events := stores.events.opened, profiles := stores.profiles.opened }

/-- Writes events. -/
def insert (stores : Stores) (records : List Fields) : Outcome Nat × Stores :=
  let (result, events) := stores.events.insert records
  (result, { stores with events := events })

/-- The service over the stores as they are. -/
def service (stores : Stores) : Service Id where
  query := fun report clause => stores.events.answer stores.clock report clause
  profiles := some fun site ids => (stores.profiles.lookup site ids).2

end Stores

end Clickstream
