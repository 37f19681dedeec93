import ContractProxy.Json.Decoding
import ContractProxy.Json.Printer

/-!
The bound on the attempts of one invocation. It is a 32-bit word and never zero.
-/

set_option autoImplicit false

namespace ContractProxy

structure AttemptLimit where
  attempts : UInt32
  positive : attempts ≠ 0
  deriving DecidableEq, Repr

namespace AttemptLimit

def ofAttempts (attempts : UInt32) : AttemptLimit :=
  if h : attempts = 0 then ⟨1, by decide⟩ else ⟨attempts, h⟩

def defaultAttempts : UInt32 := 3

def default : AttemptLimit := ofAttempts defaultAttempts

def reader : Json.Reader AttemptLimit := fun value =>
  (Json.asWord value).map ofAttempts

def toJson (limit : AttemptLimit) : Json :=
  Json.ofNat limit.attempts.toNat

end AttemptLimit

end ContractProxy
