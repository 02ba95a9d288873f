namespace DevicePlan

def deviceSum (counts : List UInt64) : UInt64 :=
  counts.foldl (· + ·) 0

inductive Provisioning where
  | primary
  /-- From nodes of the pool's own, outside the primary cluster. -/
  | auxiliary
deriving DecidableEq, Repr

namespace Provisioning

def name : Provisioning → String
  | primary => "primary"
  | auxiliary => "auxiliary"

end Provisioning

structure Pool where
  name : String
  rows : Array UInt32
  provisioning : Provisioning
deriving DecidableEq

namespace Pool

def uniform (name : String) (count nodes : UInt32) (provisioning : Provisioning) : Pool :=
  ⟨name, Array.replicate nodes.toNat count, provisioning⟩

def totalDevices (pool : Pool) : UInt64 :=
  deviceSum (pool.rows.toList.map UInt32.toUInt64)

def isAuxiliary (pool : Pool) : Bool :=
  pool.provisioning == .auxiliary

def describeRows (pool : Pool) : String :=
  "[" ++ ", ".intercalate (pool.rows.toList.map fun count => toString count.toNat) ++ "]"

end Pool

end DevicePlan
