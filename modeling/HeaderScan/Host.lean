/-!
# Hosts

A host is a scan target exactly as it was configured. It is read as a URL only
when a request to it is made, so any text is a host.
-/

namespace HeaderScan

/-- A scan target, kept verbatim. -/
structure Host where
  /-- The text as configured. -/
  text : String
deriving DecidableEq, Hashable, Inhabited

namespace Host

instance : ToString Host := ⟨Host.text⟩

/-- Hosts are ordered by the code points of their text. -/
instance : Ord Host := ⟨fun a b => compare a.text b.text⟩

/-- The first host comes no later than the second. -/
def notAfter (a b : Host) : Bool := (compare a b).isLE

/-- The hosts in increasing order; equal hosts stay side by side. -/
def sorted (hosts : List Host) : List Host := hosts.mergeSort notAfter

/-- The number of different hosts in a list. -/
def countDistinct (hosts : List Host) : Nat := hosts.eraseDups.length

end Host

end HeaderScan
