import NetReconcile.Kinds.Vpc
import NetReconcile.Kinds.Subnet
import NetReconcile.Kinds.SecurityGroup
import NetReconcile.Kinds.SecurityGroupRule
import NetReconcile.Kinds.NatGateway
import NetReconcile.Kinds.ElasticIp
import NetReconcile.Kinds.SnatRule

/-!
# The catalog of resource kinds

The seven kinds of network resource the engine manages, found by their tags.
-/

namespace NetReconcile.Resource

/-- Every kind the engine manages. -/
def catalog : List Kind :=
  [Vpc.kind, Subnet.kind, SecurityGroup.kind, SecurityGroupRule.kind, NatGateway.kind,
   ElasticIp.kind, SnatRule.kind]

/-- The kind with a tag. -/
def Kind.ofTag? (tag : String) : Option Kind := catalog.find? (·.tag == tag)

end NetReconcile.Resource
