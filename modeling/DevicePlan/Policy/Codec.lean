import DevicePlan.Document.Decode
import DevicePlan.Policy
import DevicePlan.Role

namespace DevicePlan

def Role.encode (role : Role) : Value := .string role.name

def Role.decode (format : Format) : Decoder Role :=
  .choice format (Role.all.map fun role => (role.name, role))

def Sharing.encode (sharing : Sharing) : Value := .string sharing.name

def Sharing.decode (format : Format) : Decoder Sharing :=
  .choice format (Sharing.all.map fun sharing => (sharing.name, sharing))

namespace AuxiliaryRequest

def members (request : AuxiliaryRequest) : List (String × Value) :=
  [("devices_per_node", .integer request.devicesPerNode.toNat),
    ("nodes", .integer request.nodes.toNat),
    ("bind_reward_model", .boolean request.bindRewardModel)]

def encode (request : AuxiliaryRequest) : Value := .table request.members

def fields : Fields AuxiliaryRequest :=
  mk <$> .required "devices_per_node" .uint32 <*> .required "nodes" .uint32 <*>
    .required "bind_reward_model" .boolean

def title : String := "AuxiliaryPoolRequest"

def decode (format : Format) : Decoder AuxiliaryRequest :=
  fields.decoder title format.excess

end AuxiliaryRequest

namespace Policy

structure Kind where
  sharing : Sharing
  hasAuxiliary : Bool
deriving DecidableEq

def kinds : List (String × Kind) :=
  [("colocated", ⟨.colocated, false⟩), ("colocated_with_auxiliary", ⟨.colocated, true⟩),
    ("split", ⟨.split, false⟩), ("split_with_auxiliary", ⟨.split, true⟩)]

def kindName (policy : Policy) : String :=
  match policy.auxiliary with
  | none => policy.sharing.name
  | some _ => policy.sharing.name ++ "_with_auxiliary"

def encode (policy : Policy) : Value :=
  .table (("kind", .string policy.kindName) ::
    (policy.auxiliary.map AuxiliaryRequest.members).getD [])

def decodeKind : Decoder Kind
  | .string name => Decoder.named kinds name
  | value => Decoder.mismatch "variant identifier" value

def ofKind (kind : Kind) (rest : Value) : Except DecodeError Policy :=
  if kind.hasAuxiliary then do
    let request ← AuxiliaryRequest.fields.decoder AuxiliaryRequest.title .refusedByCount rest
    return ⟨kind.sharing, some request⟩
  else
    match rest with
    | .array (first :: more) =>
      .error (.wrongLength (first :: more).length "0 elements in sequence")
    | _ => .ok ⟨kind.sharing, none⟩

/-- A policy, written as a table with a member `kind` or as an array that starts with the kind. -/
def decode : Decoder Policy
  | .table members =>
    match members.lookup "kind" with
    | none => .error (.missingField "kind")
    | some kind => do
      let kind ← decodeKind kind
      ofKind kind (.table (members.filter fun member => member.1 != "kind"))
  | .array [] => .error (.missingField "kind")
  | .array (kind :: rest) => do
    let kind ← decodeKind kind
    ofKind kind (.array rest)
  | value => Decoder.mismatch "internally tagged enum PlacementPolicy" value

end Policy

namespace PoolNames

def encode (names : PoolNames) : Value :=
  .table [("global", .string names.global), ("actor_rollout_ref", .string names.actor),
    ("critic", .string names.critic), ("reward", .string names.reward)]

def fields : Fields PoolNames :=
  mk <$> .required "global" .string <*> .required "actor_rollout_ref" .string <*>
    .required "critic" .string <*> .required "reward" .string

def title : String := "PoolNames"

def decode (format : Format) : Decoder PoolNames :=
  fields.decoder title format.excess

def someFields : Fields PoolNames :=
  mk <$> .defaulted "global" .string standard.global <*>
    .defaulted "actor_rollout_ref" .string standard.actor <*>
    .defaulted "critic" .string standard.critic <*> .defaulted "reward" .string standard.reward

def decodeSome (format : Format) : Decoder PoolNames :=
  someFields.decoder title format.excess

end PoolNames

end DevicePlan
