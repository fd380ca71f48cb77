import ContainerEntry.Failure

/-!
# Security labels

A label has a user, a role, a type and a range, with colons between them; the range may hold one
colon more.  A process inside a container keeps the user and the range of its caller and takes the
role and the type of a privileged container.
-/

namespace ContainerEntry.SecurityLabel

open Bytes

/-- The role of processes inside a container. -/
def role : Bytes := "system_r"

/-- The type of processes inside a container. -/
def type : Bytes := "spc_t"

/-- The label of a process inside a container, made from its caller's. -/
def inContainer (label : Bytes) : Except Failure Bytes :=
  let wrong : Failure := .exec "selinux" (.invalidLabel label)
  match fields colon label with
  | [user, _, _, a] => .ok (joinWith [colon] [user, role, type, a])
  | [user, _, _, a, b] => .ok (joinWith [colon] [user, role, type, a, b])
  | _ => .error wrong

end ContainerEntry.SecurityLabel
