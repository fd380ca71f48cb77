import ContainerEntry.Filesystem.Tree
import ContainerEntry.Pty.Channel

/-!
# Asking for a terminal

A client connects to the service's socket and receives one answer.  Only a socket that somebody
listens on can be connected to.
-/

namespace ContainerEntry.Pty

open Bytes

/-- What stands behind a socket. -/
inductive Service where
  /-- Nobody listens. -/
  | dead
  /-- Somebody listens and never answers. -/
  | silent
  /-- Somebody answers. -/
  | answers (payload : Bytes) (descriptors : List Descriptor)
  deriving DecidableEq, Repr

/-- The services of a host, by the inodes of their sockets. -/
abbrev Services := List (Inode × Service)

/-- Socket paths are shorter than this. -/
def maxSocketPath : Nat := 108

/-- The service that a path leads to. -/
def connect (files : Filesystem) (services : Services) (path : Bytes) : Except Fault Service :=
  if path.contains nul then .error .nulInSocketPath
  else if maxSocketPath ≤ path.length then .error .socketPathTooLong
  else match files.existing path true with
    | .error e => .error (.os e)
    | .ok inode =>
      match services.lookup inode with
      | some .dead | none => .error (.os .connectionRefused)
      | some service => .ok service

/-- The connection of a client once the service has done its part. -/
def Service.channel : Service → Channel
  | .answers payload descriptors => (Channel.fresh.send payload descriptors).close
  | _ => Channel.fresh

/-- Asks the service behind a path for a terminal. -/
def request (files : Filesystem) (services : Services) (path : Bytes) :
    Except Failure Master :=
  match connect files services path with
  | .error fault => .error (.transport (.connect path fault))
  | .ok service => service.channel.receive.1.result

end ContainerEntry.Pty
