import PracticeForge.Chat.Thread

/-!
# Chat/Store — the threads kept between turns

A store keeps one copy of each thread, the most recently saved first: saving a thread replaces
its old copy and moves it to the front, so a listing is newest save first.
-/

namespace PracticeForge

/-- Threads, the most recently saved first. -/
structure ThreadStore where
  threads : List Thread
  deriving Repr

namespace ThreadStore

/-- The empty store. -/
def empty : ThreadStore := ⟨[]⟩

/-- The thread with an id. -/
def get? (s : ThreadStore) (id : String) : Option Thread := s.threads.find? (·.id == id)

/-- Saves a thread, in front of all others. -/
def save (s : ThreadStore) (t : Thread) : ThreadStore := ⟨t :: s.threads.filter (·.id != t.id)⟩

/-- The first `limit` threads, newest save first. -/
def list (s : ThreadStore) (limit : Nat) : List Thread := s.threads.take limit

end ThreadStore

end PracticeForge
