import ContainerCpi.Json.Decode

/-!
# Dividing a VM's network endpoints

An engine attaches a container to one network when it creates it and to the others
afterwards.  The network with the smallest name (by code point) goes first; the rest follow
in name order.  Endpoints are kept as maps from network names, sorted, so the split is the
map's head and tail.
-/

namespace ContainerCpi

/-- Endpoints divided into the one given at creation and the rest. -/
structure EndpointSplit (α : Type) where
  /-- At most one entry. -/
  primary : List (String × α)
  /-- Connected after creation, in name order. -/
  additional : List (String × α)

/-- Sort endpoints by network name (a later entry for a name wins) and take the first. -/
def EndpointSplit.of {α : Type} (endpoints : List (String × α)) : EndpointSplit α :=
  match endpoints.foldl (fun acc kv => Decoder.insertSorted kv.1 kv.2 acc) [] with
  | [] => ⟨[], []⟩
  | first :: rest => ⟨[first], rest⟩

end ContainerCpi
