import MinuteBook.Fault
import MinuteBook.Value.Basic

/-!
# The front of a service

What stands between a service and those who ask: it tells what a request is for and which data it
carries, and it sends what the service answers. It is not part of this library but a parameter of
the service, with types of its own for requests and for what is sent.
-/

namespace MinuteBook

/-- What a service can be asked for. -/
inductive Route where
  /-- The list of templates. -/
  | templates
  /-- The definition of a template. -/
  | template (id : String)
  /-- The answers that a form starts with. -/
  | defaults (id : String)
  /-- A document from answers. -/
  | generate (id : String)
  /-- The list of entities. -/
  | entities
  deriving DecidableEq

structure Response (α : Type) where
  status : Nat
  body : α
  deriving DecidableEq

/-- Where a request leads. -/
inductive Destination (α : Type) where
  | route (r : Route)
  /-- Not to the service: the front answers on its own, or comes to grief. -/
  | elsewhere (answer : Except Foreign (Response α))

structure Front (ρ α : Type) where
  destination : ρ → Destination α
  /-- The data in a request, null if there are none. -/
  data : ρ → Except Foreign Value
  /-- What is sent of data to who made a request. -/
  encode : ρ → Value → Except Foreign α
  /-- What is sent of the message of a failure. Unlike other data it can always be sent. -/
  message : ρ → String → α

end MinuteBook
