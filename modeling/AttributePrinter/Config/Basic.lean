import AttributePrinter.Buffer
import AttributePrinter.Policy

/-!
# Configurations

How large the buffer is and how a run without a value ends.
-/

namespace AttributePrinter

structure Config where
  capacity : Nat := defaultCapacity
  policy : Policy := .legacy
  deriving DecidableEq, Repr

namespace Config

def standard : Config := {}

def describe (config : Config) : String :=
  s!"Configuration:\nBuffer capacity: {config.capacity} bytes\n" ++
    s!"Exit policy: {config.policy.title}\n"

def capacityKey : List Char := "buffer_capacity".toList

def policyKey : List Char := "exit_policy".toList

end Config

end AttributePrinter
