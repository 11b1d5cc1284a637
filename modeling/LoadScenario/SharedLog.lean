/-!
# Shared logs

Several holders may write to one log. A handle says which log its holder means, and a copy of a
handle means the same log, so a message added through one handle is seen through the other, and
emptying the log empties it for both.
-/

namespace LoadScenario

/-- The log that a holder writes to. -/
structure LogHandle where
  log : Nat
  deriving DecidableEq

/-- Logs with their messages, oldest first. -/
structure SharedLogs where
  logs : List (List String)

namespace SharedLogs

/-- No log at all. -/
def empty : SharedLogs := ⟨[]⟩

/-- Starts a log without messages. -/
def new (s : SharedLogs) : LogHandle × SharedLogs := (⟨s.logs.length⟩, ⟨s.logs ++ [[]]⟩)

/-- The messages in the log of a handle. -/
def messages (s : SharedLogs) (h : LogHandle) : List String := (s.logs[h.log]?).getD []

/-- Adds a message through a handle. -/
def add (s : SharedLogs) (h : LogHandle) (message : String) : SharedLogs :=
  ⟨s.logs.modify h.log (· ++ [message])⟩

/-- Hands out the messages in the log of a handle, and empties it. -/
def drain (s : SharedLogs) (h : LogHandle) : List String × SharedLogs :=
  (s.messages h, ⟨s.logs.modify h.log fun _ => []⟩)

theorem messages_add (s : SharedLogs) (h k : LogHandle) (message : String)
    (hk : k.log < s.logs.length) :
    (s.add h message).messages k = if k = h then s.messages k ++ [message] else s.messages k := by
  obtain ⟨i⟩ := h
  obtain ⟨j⟩ := k
  have hk : j < s.logs.length := hk
  by_cases e : i = j
  · simp [add, messages, e, hk]
  · simp [add, messages, e, Ne.symm e]

theorem messages_drain (s : SharedLogs) (h k : LogHandle) :
    (s.drain h).2.messages k = if k = h then [] else s.messages k := by
  obtain ⟨i⟩ := h
  obtain ⟨j⟩ := k
  by_cases e : i = j
  · cases hs : s.logs[j]? <;> simp [drain, messages, e, hs]
  · simp [drain, messages, e, Ne.symm e]

end SharedLogs

end LoadScenario
