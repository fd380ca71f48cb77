import Mathlib
import ContainerEntry.Stop
import ContainerEntry.Proofs.World.TypedCommand

/-!
# Whose machine a name addresses

A user's container is registered under the user's name and its own, with a hyphen between them; and
both may have hyphens themselves.  So a machine's name does not tell where the user's name ends.

* **When two machines have one name** (`machineName_eq_iff`): the user and the container are the same,
  or one user's name goes on behind the other's after a hyphen (`Container.Shadows`).
* **A door looks up one machine, and a stop signals one machine** (`calls_enterDoor`, `calls_stop`):
  that of the user's container.

`addresses_only_shared` puts them together: what a user can ask about or signal belongs to another
user only where one of the two names shadows the other.
-/

namespace ContainerEntry

open Bytes

/-- The machine that a call is about. -/
def BusCall.machine? : BusCall → Option Bytes
  | .getMachine machine => some machine
  | .killMachine machine _ _ => some machine
  | .getProperty _ _ _ => none

/-! ### Names -/

/-- Two pairs of texts with a separator between them are the same text if and only if they are the
same pair, or one pair has its separator further back. -/
lemma Bytes.append_cons_eq_iff {sep : UInt8} {a b x y : Bytes} :
    a ++ sep :: x = b ++ sep :: y ↔
      (a = b ∧ x = y) ∨ (∃ m, a = b ++ sep :: m ∧ y = m ++ sep :: x) ∨
        ∃ m, b = a ++ sep :: m ∧ x = m ++ sep :: y := by
  constructor
  · intro h
    rcases List.append_eq_append_iff.1 h with ⟨gap, hb, hx⟩ | ⟨gap, ha, hy⟩
    · cases gap with
      | nil =>
        rw [List.append_nil] at hb
        exact .inl ⟨hb.symm, (List.cons.inj hx).2⟩
      | cons s m =>
        obtain ⟨rfl, rfl⟩ := List.cons.inj hx
        exact .inr (.inr ⟨m, hb, rfl⟩)
    · cases gap with
      | nil =>
        rw [List.append_nil] at ha
        exact .inl ⟨ha, (List.cons.inj hy).2.symm⟩
      | cons s m =>
        obtain ⟨rfl, rfl⟩ := List.cons.inj hy
        exact .inr (.inl ⟨m, ha, rfl⟩)
  · rintro (⟨rfl, rfl⟩ | ⟨m, rfl, rfl⟩ | ⟨m, rfl, rfl⟩)
    · rfl
    · simp
    · simp

namespace Container

/-- A user's name goes on behind another's after a hyphen, and the other's container has that
continuation in front of its name. -/
def Shadows (c : Container) (user : Bytes) (d : Container) (other : Bytes) : Prop :=
  ∃ middle, user = other ++ hyphen :: middle ∧ d.name = middle ++ hyphen :: c.name

/-- Two users' containers are the same, or one shadows the other. -/
def SharesMachine (c : Container) (user : Bytes) (d : Container) (other : Bytes) : Prop :=
  (user = other ∧ c.name = d.name) ∨ c.Shadows user d other ∨ d.Shadows other c user

variable {c d : Container} {user other : Bytes}

/-- **Machines have one name if and only if their containers are the same or one shadows the
other.** -/
lemma machineName_eq_iff :
    c.machineName user = d.machineName other ↔ c.SharesMachine user d other := by
  rw [machineName, machineName, List.append_assoc, List.append_assoc, List.append_right_inj]
  exact Bytes.append_cons_eq_iff

end Container

/-! ### Calls -/

namespace Registry

variable {r : Registry} {machine : Bytes} {call : BusCall}

/-- A search for a machine asks about that machine. -/
lemma eq_getMachine_of_mem_find (h : call ∈ (r.find machine).2) : call = .getMachine machine := by
  unfold find at h
  split_ifs at h
  · cases h
  · cases h
  · exact List.mem_singleton.1 h

/-- Only the search asks anything when a leader is wanted. -/
lemma calls_leader (r : Registry) (machine : Bytes) :
    (r.leader machine).2 = (r.find machine).2 := by
  unfold leader
  rcases r.find machine with ⟨_ | _ | pid, calls⟩ <;> rfl

/-- A signal to a machine is sent to that machine. -/
lemma eq_killMachine_of_mem_kill {scope : KillScope} {signal : Nat}
    (h : call ∈ (r.kill machine scope signal).2) : call = .killMachine machine scope signal := by
  unfold kill at h
  split_ifs at h
  · cases h
  · cases h
  · exact List.mem_singleton.1 h
  · exact List.mem_singleton.1 h

end Registry

namespace World

variable (w : World) (settings : Settings) (machine : Bytes) (spec : Entry.Spec)

/-- The door of a container without an init system asks only for the leader. -/
lemma calls_enterNamespaces :
    (w.enterNamespaces settings machine spec).calls = (w.registry.leader machine).2 := by
  unfold enterNamespaces
  dsimp only
  split
  · rfl
  · split <;> rfl

/-- The door of a booted container asks only for the leader. -/
lemma calls_enterUnit :
    (w.enterUnit settings machine spec).calls = (w.registry.leader machine).2 := by
  unfold enterUnit
  dsimp only
  split
  · rfl
  · split
    · rfl
    · split
      · rfl
      · split <;> rfl

/-- Either door asks for the machine of the user's container, and for nothing else. -/
lemma calls_enterDoor (c : Container) (user : Bytes) :
    (w.enterDoor settings c user spec).calls = (w.registry.find (c.machineName user)).2 := by
  rw [← Registry.calls_leader]
  unfold enterDoor
  dsimp only
  split
  · exact calls_enterUnit w settings _ spec
  · exact calls_enterNamespaces w settings _ spec

end World

/-- A stop signals the machine once, if the request suits the container, and asks nothing else. -/
lemma calls_stop (registry : Registry) (space : Lock.Space) (supervisor : List Inode)
    (c : Container) (user : Bytes) (signal : StopSignal) (everyProcess : Bool) :
    (stop registry space supervisor c user signal everyProcess).calls =
      match signal.resolve c.config.boot everyProcess with
      | .error _ => []
      | .ok sent =>
        (registry.kill (c.machineName user) (stopScope everyProcess) sent.number).2 := by
  unfold stop
  split
  next refused => rw [refused]
  next sent hsent =>
    rw [hsent]
    dsimp only
    split
    · rfl
    · split <;> rfl

/-- **No user's request addresses the machine of another's container, unless one shadows the other.**
Machines have one name if and only if their containers are the same or one shadows the other; so a
machine that a door asks for, or that a stop signals, belongs to a container that shares its machine
with the one that was named. -/
theorem addresses_only_shared (c d : Container) (user other : Bytes) :
    (c.machineName user = d.machineName other ↔ c.SharesMachine user d other) ∧
    (∀ (w : World) (settings : Settings) (spec : Entry.Spec),
      ∀ call ∈ (w.enterDoor settings c user spec).calls,
        call.machine? = some (d.machineName other) → c.SharesMachine user d other) ∧
    ∀ (registry : Registry) (space : Lock.Space) (supervisor : List Inode) (signal : StopSignal)
      (everyProcess : Bool),
      ∀ call ∈ (stop registry space supervisor c user signal everyProcess).calls,
        call.machine? = some (d.machineName other) → c.SharesMachine user d other := by
  refine ⟨Container.machineName_eq_iff, fun w settings spec call hcall hmachine => ?_,
    fun registry space supervisor signal everyProcess call hcall hmachine => ?_⟩
  · rw [World.calls_enterDoor] at hcall
    rw [Registry.eq_getMachine_of_mem_find hcall] at hmachine
    exact Container.machineName_eq_iff.1 (Option.some.inj hmachine)
  · rw [calls_stop] at hcall
    split at hcall
    · cases hcall
    · rw [Registry.eq_killMachine_of_mem_kill hcall] at hmachine
      exact Container.machineName_eq_iff.1 (Option.some.inj hmachine)

/-- A container whose files play no part. -/
def bareContainer (name : Bytes) : Container := ⟨name, "/", ⟨false⟩⟩

/-- What comes of killing a container on a host without files, where nothing is locked. -/
def bareStop (name user : Bytes) : StopResult :=
  stop World.smallHost.registry ⟨.empty, []⟩ [] (bareContainer name) user .kill false

/-- A door to the container `b-c` of a user `a` asks for the machine of the container `c` of a user
`a-b`, and a stop of the latter signals the machine of the former, because the one shadows the
other. -/
theorem addresses_only_shared_hyphens :
    (World.smallHost.enterDoor .standard (bareContainer "b-c") "a" (World.smallEntry [])).calls =
        [.getMachine ((bareContainer "c").machineName "a-b")] ∧
      (bareContainer "b-c").SharesMachine "a" (bareContainer "c") "a-b" ∧
      (bareStop "c" "a-b").calls =
        [.killMachine ((bareContainer "b-c").machineName "a") .leader 9] ∧
      (bareContainer "c").SharesMachine "a-b" (bareContainer "b-c") "a" := by
  have hdoor : (World.smallHost.enterDoor .standard (bareContainer "b-c") "a"
      (World.smallEntry [])).calls = [.getMachine ((bareContainer "c").machineName "a-b")] := by
    rw [World.calls_enterDoor]
    decide
  have hstop : (bareStop "c" "a-b").calls =
      [.killMachine ((bareContainer "b-c").machineName "a") .leader 9] := by
    rw [bareStop, calls_stop]
    decide
  have hlook := (addresses_only_shared (bareContainer "b-c") (bareContainer "c") "a" "a-b").2.1
    World.smallHost .standard (World.smallEntry []) _ (hdoor ▸ List.mem_singleton_self _) rfl
  have hsignal := (addresses_only_shared (bareContainer "c") (bareContainer "b-c") "a-b" "a").2.2
    World.smallHost.registry ⟨.empty, []⟩ [] .kill false _
    (hstop ▸ List.mem_singleton_self _) rfl
  exact ⟨hdoor, hlook, hstop, hsignal⟩

/-- Two users whose names hold neither slashes nor colons have containers of different names, and
the machines have one name: what the one asks for and kills is the other's. -/
theorem other_users_machine_addressed :
    Container.isName "b-c" = true ∧ Container.isName "c" = true ∧
      (∀ user ∈ [ofString "a", ofString "a-b"], user ≠ [] ∧ slash ∉ user ∧ colon ∉ user) ∧
      ofString "a" ≠ ofString "a-b" ∧ ofString "b-c" ≠ ofString "c" ∧
      (bareContainer "b-c").machineName "a" = (bareContainer "c").machineName "a-b" ∧
      (World.smallHost.enterDoor .standard (bareContainer "b-c") "a" (World.smallEntry [])).calls =
        [.getMachine ((bareContainer "c").machineName "a-b")] ∧
      (bareStop "b-c" "a").calls =
        [.killMachine ((bareContainer "c").machineName "a-b") .leader 9] := by
  refine ⟨by decide, by decide, by decide, by decide, by decide, by decide, ?_, ?_⟩
  · rw [World.calls_enterDoor]
    decide
  · rw [bareStop, calls_stop]
    decide

end ContainerEntry
