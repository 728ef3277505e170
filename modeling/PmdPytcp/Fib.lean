import PmdPytcp.Lib.Runs

namespace PmdPytcp.Fib

inductive RouteScope where
  | everywhere
  | site
  | link
  | host
  | nowhere
deriving DecidableEq,Repr

inductive RouteProtocol where
  | unspec
  | redirect
  | kernel
  | boot
  | static
  | ra
  | dhcp
deriving DecidableEq,Repr

-- Routes of one address family, with addresses A and networks N.
structure Route (A N : Type) where
  destination : N
  gateway : Option A := none
  prefsrc : Option A := none
  metric : Nat := 0
  scope : RouteScope := .everywhere
  protocol : RouteProtocol := .static
  oif : Option Nat := none
deriving DecidableEq,Repr

-- Connected routes are made up by each lookup and never stored.
structure RouteTable (A N : Type) where
  routes : List (Route A N) := []
deriving DecidableEq,Repr

namespace RouteTable
variable {A N : Type} [DecidableEq A] [DecidableEq N]

def add (table : RouteTable A N) (route : Route A N) : RouteTable A N := ⟨table.routes ++ [route]⟩

-- Without a gateway every route to the destination goes.
def remove (table : RouteTable A N) (destination : N) (gateway : Option A) : RouteTable A N :=
  ⟨table.routes.filter fun route =>
    !(decide (route.destination = destination) && (gateway.isNone || decide (route.gateway = gateway)))⟩

-- The new default goes in after every old one is out.
def replaceDefault (table : RouteTable A N) (defaultNetwork : N) (gateway : A) (protocol : RouteProtocol) :
    RouteTable A N :=
  (table.remove defaultNetwork none).add
    { destination := defaultNetwork, gateway := some gateway, protocol := protocol }

def removeDefault (table : RouteTable A N) (defaultNetwork : N) : RouteTable A N :=
  table.remove defaultNetwork none

omit [DecidableEq A] [DecidableEq N] in
@[simp] theorem mem_add {table : RouteTable A N} {route new : Route A N} :
    route ∈ (table.add new).routes ↔ route ∈ table.routes ∨ route = new := by simp [add]

theorem mem_remove {table : RouteTable A N} {route : Route A N} {destination : N} {gateway : Option A} :
    route ∈ (table.remove destination gateway).routes ↔
      route ∈ table.routes ∧ ¬(route.destination = destination ∧ (gateway = none ∨ route.gateway = gateway)) := by
  cases gateway with
  | none => simp [remove]
  | some address =>
    simp only [remove,List.mem_filter,Option.isNone_some,Bool.false_or,Bool.not_eq_true',Bool.and_eq_false_iff,
      decide_eq_false_iff_not,reduceCtorEq,false_or,not_and_or]

theorem mem_removeDefault {table : RouteTable A N} {route : Route A N} {defaultNetwork : N} :
    route ∈ (table.removeDefault defaultNetwork).routes ↔
      route ∈ table.routes ∧ route.destination ≠ defaultNetwork := by
  simp [removeDefault,mem_remove]

theorem mem_replaceDefault {table : RouteTable A N} {route : Route A N} {defaultNetwork : N} {gateway : A}
    {protocol : RouteProtocol} :
    route ∈ (table.replaceDefault defaultNetwork gateway protocol).routes ↔
      route ∈ table.routes ∧ route.destination ≠ defaultNetwork ∨
        route = { destination := defaultNetwork, gateway := some gateway, protocol := protocol } := by
  simp [replaceDefault,mem_remove]

end RouteTable

end PmdPytcp.Fib
