/-! Cloud platforms and the providers built into the core components. A platform is written as one
of twelve names; the empty text stands for none, and any other text is kept as it is. -/

namespace CloudFlags

/-- The platform that a cluster runs on. -/
inductive Platform where
  | unset
  | aws
  | azure
  | bareMetal
  | gcp
  | libvirt
  | openStack
  | none
  | vSphere
  | oVirt
  | ibmCloud
  | kubeVirt
  | alibabaCloud
  | unrecognized (name : String)
  deriving DecidableEq, Repr, Inhabited

namespace Platform

/-- The platforms with a name of their own. -/
def known : List Platform :=
  [.aws, .azure, .bareMetal, .gcp, .libvirt, .openStack, .none, .vSphere, .oVirt, .ibmCloud,
    .kubeVirt, .alibabaCloud]

/-- The text a platform is written as. -/
def name : Platform → String
  | .unset => ""
  | .aws => "AWS"
  | .azure => "Azure"
  | .bareMetal => "BareMetal"
  | .gcp => "GCP"
  | .libvirt => "Libvirt"
  | .openStack => "OpenStack"
  | .none => "None"
  | .vSphere => "VSphere"
  | .oVirt => "oVirt"
  | .ibmCloud => "IBMCloud"
  | .kubeVirt => "KubeVirt"
  | .alibabaCloud => "AlibabaCloud"
  | .unrecognized name => name

/-- The platform that a text stands for. -/
def ofName : String → Platform
  | "" => .unset
  | "AWS" => .aws
  | "Azure" => .azure
  | "BareMetal" => .bareMetal
  | "GCP" => .gcp
  | "Libvirt" => .libvirt
  | "OpenStack" => .openStack
  | "None" => .none
  | "VSphere" => .vSphere
  | "oVirt" => .oVirt
  | "IBMCloud" => .ibmCloud
  | "KubeVirt" => .kubeVirt
  | "AlibabaCloud" => .alibabaCloud
  | other => .unrecognized other

end Platform

/-- A provider that the core components bring with them. -/
inductive InTreeProvider where
  | aws
  | azure
  | gce
  | openStack
  | vSphere
  deriving DecidableEq, Repr

namespace InTreeProvider

/-- The provider's name as the operand's flag takes it. -/
def name : InTreeProvider → String
  | .aws => "aws"
  | .azure => "azure"
  | .gce => "gce"
  | .openStack => "openstack"
  | .vSphere => "vsphere"

/-- The providers whose configuration is copied for the operand: all of them. -/
def synced : List InTreeProvider := [.aws, .azure, .gce, .openStack, .vSphere]

end InTreeProvider

/-- The built-in provider of a platform. -/
def Platform.inTree? : Platform → Option InTreeProvider
  | .aws => some .aws
  | .azure => some .azure
  | .vSphere => some .vSphere
  | .gcp => some .gce
  | .openStack => some .openStack
  | _ => Option.none

end CloudFlags
