import DevicePlan.Cluster
import DevicePlan.Pool

namespace DevicePlan

structure Layout where
  cluster : Cluster
  pools : List Pool
deriving DecidableEq

namespace Layout

def empty (cluster : Cluster) : Layout := ⟨cluster, []⟩

def push (layout : Layout) (pool : Pool) : Layout :=
  { layout with pools := layout.pools ++ [pool] }

def addPrimary (layout : Layout) (name : String) (rows : Array UInt32) : Layout :=
  layout.push ⟨name, rows, .primary⟩

/-- Declare a pool on nodes of its own, with the same number of devices on each of them. -/
def addAuxiliary (layout : Layout) (name : String) (devicesPerNode nodes : UInt32) :
    Except PlanError Layout :=
  if devicesPerNode = 0 then
    .error (.invalidAuxiliary (.noDevices name))
  else if nodes = 0 then
    .error (.invalidAuxiliary (.noNodes name))
  else if maxNodes < nodes then
    .error (.invalidAuxiliary (.tooManyNodes name nodes))
  else
    .ok (layout.push (.uniform name devicesPerNode nodes .auxiliary))

def colocated (cluster : Cluster) (name : String) : Layout :=
  (empty cluster).push (.uniform name cluster.devicesPerNode cluster.nodes .primary)

def firstShare (devices : UInt32) : UInt32 := devices / 2 + devices % 2

def secondShare (devices : UInt32) : UInt32 := devices / 2

/-- Two primary pools that share the devices of every node, the odd one going to the first. -/
def split (cluster : Cluster) (first second : String) : Except PlanError Layout :=
  if cluster.devicesPerNode < 2 then
    .error (.invalidCluster (.tooNarrowToSplit cluster.devicesPerNode))
  else
    .ok (((empty cluster).push
      (.uniform first (firstShare cluster.devicesPerNode) cluster.nodes .primary)).push
      (.uniform second (secondShare cluster.devicesPerNode) cluster.nodes .primary))

def find? (layout : Layout) (name : String) : Option Pool :=
  layout.pools.find? fun pool => pool.name == name

def declares (layout : Layout) (name : String) : Bool :=
  (layout.find? name).isSome

end Layout

end DevicePlan
