import Mathlib
import ContainerEntry.Proofs.Container.Containment
import ContainerEntry.Proofs.Settings

/-!
# Where the terminal service's socket is

The settings name a private directory and a socket in it, and a container has both in its storage
tree.  Two rules meet here that were made apart: settings take any name without a slash for a file
name, and going down into the storage tree keeps only the names that a directory can have.  They
differ on the two names that are made of dots.

* **A file name is a step down, unless it is made of dots** (`normals_of_isFileName`).
* **The socket is below the private directory** (`components_ptySocket`), for all settings.

`socket_stands_iff` says exactly when the socket is where the settings say, and when two names lead
to one socket.
-/

namespace ContainerEntry

open Bytes ContainerEntry.Path

/-- A name of one or two dots, which every directory has and which names no file. -/
def Path.IsDots (name : Bytes) : Prop := name = [dot] ∨ name = [dot, dot]

instance (name : Bytes) : Decidable (IsDots name) :=
  inferInstanceAs (Decidable (name = [dot] ∨ name = [dot, dot]))

/-- A plain name is its only normal component. -/
lemma Path.IsPlain.normals_eq {name : Bytes} (h : IsPlain name) : normals name = [name] := by
  rw [Path.normals_eq, h.components_eq]
  rfl

/-- A file name is a plain name, unless it is made of dots. -/
lemma Settings.isPlain_of_isFileName {name : Bytes} (h : isFileName name) (hdots : ¬ IsDots name) :
    IsPlain name := by
  simp only [isFileName, Bool.and_eq_true, Bool.not_eq_true', List.isEmpty_eq_false_iff,
    List.contains_eq_mem, decide_eq_false_iff_not] at h
  obtain ⟨hdot, hparent⟩ := not_or.1 hdots
  exact ⟨h.2, by simp [Path.isNormal, h.1, hdot, hparent]⟩

/-- **A file name is one step down, and one that is made of dots is none.** -/
lemma Settings.normals_of_isFileName {name : Bytes} (h : isFileName name) :
    normals name = if IsDots name then [] else [name] := by
  split_ifs with hdots
  · rcases hdots with rfl | rfl <;> rfl
  · exact (isPlain_of_isFileName h hdots).normals_eq

namespace Container

/-- The steps to the private directory in a container's storage tree. -/
def privateDirectory (c : Container) (settings : Settings) : List Component :=
  components c.storage ++
    ((components settings.privateDir).filterMap Component.name?).map .normal

/-- The socket is below the private directory, as far down as its name leads. -/
lemma components_ptySocket (c : Container) (settings : Settings) :
    components (c.ptySocket settings) =
      c.privateDirectory settings ++ (normals settings.ptySocket).map .normal := by
  rw [ptySocket, storageChild, components_descend, privateDirectory, ← normals_eq,
    List.flatMap_cons, List.flatMap_singleton, List.map_append, List.append_assoc]

/-- **The socket is where the settings say, unless its name is made of dots.**  Under settings that
break no rule, the socket's name is the last step to it, behind those to the private directory in
the container's storage tree, if and only if the name is not made of dots; otherwise the path is the
one of the private directory itself.  Another name that breaks no rule leads to the same socket if
and only if both are made of dots. -/
theorem socket_stands_iff (c : Container) (settings : Settings)
    (hrule : settings.brokenRule = none) :
    (components (c.ptySocket settings) =
        c.privateDirectory settings ++ [.normal settings.ptySocket] ↔
      ¬ IsDots settings.ptySocket) ∧
    (IsDots settings.ptySocket →
      components (c.ptySocket settings) = c.privateDirectory settings) ∧
    ∀ socket, { settings with ptySocket := socket }.brokenRule = none →
      socket ≠ settings.ptySocket →
      (components (c.ptySocket { settings with ptySocket := socket }) =
          components (c.ptySocket settings) ↔
        IsDots socket ∧ IsDots settings.ptySocket) := by
  obtain ⟨-, hname⟩ := Settings.brokenRule_eq_none_iff.1 hrule
  have hnormals := Settings.normals_of_isFileName hname
  refine ⟨?_, fun hdots => ?_, fun socket hrule' hne => ?_⟩
  · rw [components_ptySocket, List.append_cancel_left_eq, hnormals]
    by_cases hdots : IsDots settings.ptySocket <;> simp [hdots]
  · rw [components_ptySocket, hnormals, if_pos hdots, List.map_nil, List.append_nil]
  · obtain ⟨-, hname'⟩ := Settings.brokenRule_eq_none_iff.1 hrule'
    have hnormals' : normals socket = if IsDots socket then [] else [socket] :=
      Settings.normals_of_isFileName hname'
    have hsame : c.privateDirectory { settings with ptySocket := socket } =
        c.privateDirectory settings := rfl
    rw [components_ptySocket, components_ptySocket, hsame, List.append_cancel_left_eq, hnormals,
      hnormals']
    by_cases hdots : IsDots settings.ptySocket <;> by_cases hdots' : IsDots socket <;>
      simp [hdots, hdots', hne]

/-- The standard settings with another name for the socket. -/
def toldSocket (name : Bytes) : Settings := { Settings.standard with ptySocket := name }

/-- A container in a directory that is written as a relative path. -/
def relativeContainer : Container := ⟨"dev", "./alice/dev", ⟨true⟩⟩

/-- A name that dots stand in is where the settings say, and so is one that differs in a dot. -/
theorem socket_stands_hidden :
    (toldSocket ".pty").brokenRule = none ∧ (toldSocket "..pty").brokenRule = none ∧
    components (relativeContainer.ptySocket (toldSocket ".pty")) =
      [.here, .normal "alice", .normal "dev", .normal "storage", .normal "run", .normal "host",
        .normal "porthole", .normal ".pty"] ∧
    components (relativeContainer.ptySocket (toldSocket "..pty")) ≠
      components (relativeContainer.ptySocket (toldSocket ".pty")) := by
  have hrule : (toldSocket ".pty").brokenRule = none := by rfl
  have hrule' : (toldSocket "..pty").brokenRule = none := by rfl
  obtain ⟨hstands, -, hothers⟩ := socket_stands_iff relativeContainer (toldSocket ".pty") hrule
  refine ⟨hrule, hrule', ?_, fun heq => ?_⟩
  · rw [hstands.2 (by decide)]
    decide
  · exact absurd ((hothers "..pty" hrule' (by decide)).1 heq).1 (by decide)

/-- Settings that break no rule may name a dot or two for the socket, and then the path is the one
of the private directory, whichever of the two they name. -/
theorem dotted_socket_is_private_directory :
    (toldSocket "..").brokenRule = none ∧ (toldSocket ".").brokenRule = none ∧
    components (relativeContainer.ptySocket (toldSocket "..")) ≠
      relativeContainer.privateDirectory (toldSocket "..") ++ [.normal ".."] ∧
    relativeContainer.ptySocket (toldSocket "..") =
      ofString "./alice/dev/storage/run/host/porthole" ∧
    relativeContainer.ptySocket (toldSocket ".") = relativeContainer.ptySocket (toldSocket "..") := by
  exact ⟨rfl, rfl, by decide, by decide, by decide⟩

end Container

end ContainerEntry
