import PracticeForge.Service.Threads
import PracticeForge.Generation.Scripted

/-!
# Service/Local — the whole service in one process, its outside services scripted

Threads and activities are kept in memory, the progress channels live beside them, ids are
numbered in the order they are taken, and the models and the judge answer from scripts.  This
is the world in which the service can be replayed from start to end.
-/

namespace PracticeForge

/-- The state of a service kept in one process. -/
structure LocalWorld where
  memory : Memory
  bus : ProgressBus
  /-- The number of ids taken so far. -/
  ids : Nat
  script : Generation.Scripted

namespace LocalWorld

/-- A fresh world with progress buffers of the given size. -/
def start (bufferSize : Int) (script : Generation.Scripted) : LocalWorld :=
  ⟨Memory.empty, ProgressBus.empty bufferSize, 0, script⟩

/-- The service over a local world, with the given wait before a retry. -/
def service (backoff : Binary64) : ThreadService LocalWorld where
  storage := Memory.storage.focus (·.memory) fun w m => { w with memory := m }
  services := Generation.Scripted.services.focus (·.script) fun w s => { w with script := s }
  bus := (·.bus)
  setBus w b := { w with bus := b }
  mintId := mintId.focus (·.ids) fun w n => { w with ids := n }
  backoff := backoff
  record _ := pure ()

end LocalWorld

end PracticeForge
